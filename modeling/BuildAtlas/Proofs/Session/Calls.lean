import BuildAtlas.Proofs.Query.Outcome
import BuildAtlas.Session.Calls
import BuildAtlas.Session.Script
import Mathlib.Data.List.Induction

/-! # Calls one after another

A session takes calls one at a time, and each comes to an event: two outputs that are indexed, a
fault, a tree from elsewhere, new settings. The state is read off the events. The generation
counts the trees, the tree in use is the last of them, and what is on record is the last end of
a refresh; a call that fails leaves nothing behind but its fault. A snapshot is the tree of its
generation, whatever was called since it was taken.
-/
namespace BuildAtlas.Session

/-- What a call comes to, given what the tool replies in it. -/
inductive Event where
  | indexed (outputs : Output × Output)
  | failed (fault : Fault)
  | skipped
  | replaced (w : Workspace) (stats : Stats)
  | reported (fault : Fault)
  | installed (settings : Settings)
  | taken

/-- A call in its place: the session that it found and the state that it left. -/
structure Deed (σ : Type) where
  found : Session σ
  call : Call
  event : Event
  answer : Answer
  left : State

namespace Call

/-- The call asks the tool. -/
def refreshes : Call → Bool
  | refresh | tryRefresh false => true
  | _ => false

def replaces : Call → Bool
  | replace _ _ => true
  | _ => false

theorem not_replaces_of_refreshes {call : Call} (h : call.refreshes) : call.replaces = false := by
  cases call with
  | replace w stats => cases h
  | _ => rfl

end Call

def Answer.succeeded : Answer → Bool
  | refreshed (some (.ok _)) => true
  | _ => false

namespace Event

/-- What becomes of a refresh. -/
def ofOutputs : Except Fault (Output × Output) → Event
  | .ok outputs => indexed outputs
  | .error fault => failed fault

/-- The tree that comes into use. -/
def tree? : Event → Option Workspace
  | indexed outputs => some (Query.indexOf outputs).workspace
  | replaced w _ => some w
  | _ => none

/-- What goes on record. -/
def record? : Event → Option (Except String Stats)
  | indexed outputs => some (.ok (Query.indexOf outputs).stats)
  | replaced _ stats => some (.ok stats)
  | failed fault | reported fault => some (.error fault.message)
  | _ => none

def settings? : Event → Option Settings
  | installed settings => some settings
  | _ => none

end Event

section run
variable {σ : Type} (tool : Tool σ) (shell : Shell)

/-- The event is told from the replies alone. -/
def event (x : Session σ) : Call → Event
  | .refresh | .tryRefresh false => .ofOutputs (Query.outputs tool shell x.state.settings x.tool)
  | .tryRefresh true => .skipped
  | .replace w stats => .replaced w stats
  | .recordFailure fault => .reported fault
  | .update settings => .installed settings
  | .snapshot => .taken

def deed (x : Session σ) (call : Call) : Deed σ where
  found := x
  call
  event := event tool shell x call
  answer := (perform tool shell x call).1
  left := (perform tool shell x call).2.state

def deeds (x : Session σ) : List Call → List (Deed σ)
  | [] => []
  | call :: calls => deed tool shell x call :: deeds (perform tool shell x call).2 calls

end run

/-! ## One call -/

section deed
variable {σ : Type} {tool : Tool σ} {shell : Shell} {x : Session σ} {call : Call}

/-- All that a call can do: the event, the answer, and the state, which is the old one but for
what the event changes. -/
inductive Comes (tool : Tool σ) (shell : Shell) (x : Session σ) :
    Call → Event → Answer → State → Prop
  | indexed {call outputs} : call.refreshes →
      Query.outputs tool shell x.state.settings x.tool = .ok outputs →
      Comes tool shell x call (.indexed outputs)
        (.refreshed (some (.ok (Query.indexOf outputs).stats)))
        { x.state with
          current := ⟨(Query.indexOf outputs).workspace, x.state.generation + 1⟩
          lastRefresh := some (.ok (Query.indexOf outputs).stats) }
  | failed {call fault} : call.refreshes →
      Query.outputs tool shell x.state.settings x.tool = .error fault →
      Comes tool shell x call (.failed fault) (.refreshed (some (.error fault)))
        { x.state with lastRefresh := some (.error fault.message) }
  | skipped : Comes tool shell x (.tryRefresh true) .skipped (.refreshed none) x.state
  | replaced {w stats} : Comes tool shell x (.replace w stats) (.replaced w stats) .done
      { x.state with
        current := ⟨w, x.state.generation + 1⟩
        lastRefresh := some (.ok stats) }
  | reported {fault} : Comes tool shell x (.recordFailure fault) (.reported fault) .done
      { x.state with lastRefresh := some (.error fault.message) }
  | installed {settings} : Comes tool shell x (.update settings) (.installed settings)
      (.rebuild (x.state.settings.requiresRebuild settings)) { x.state with settings }
  | taken : Comes tool shell x .snapshot .taken (.snapshot x.state.current) x.state

abbrev Deed.Comes (tool : Tool σ) (shell : Shell) (d : Deed σ) : Prop :=
  Session.Comes tool shell d.found d.call d.event d.answer d.left

theorem refresh_eq (x : Session σ) :
    (x.refresh tool shell).1 = (Query.outputs tool shell x.state.settings x.tool).map
      (fun o => (Query.indexOf o).stats) ∧
    (x.refresh tool shell).2.state =
      match Query.outputs tool shell x.state.settings x.tool with
      | .ok o => x.state.replace (Query.indexOf o).workspace (Query.indexOf o).stats
      | .error fault => x.state.recordFailure fault := by
  simp only [refresh, Query.index_result]
  cases Query.outputs tool shell x.state.settings x.tool <;> exact ⟨rfl, rfl⟩

theorem comes_of_refreshes (hc : call.refreshes) :
    Comes tool shell x call (.ofOutputs (Query.outputs tool shell x.state.settings x.tool))
      (.refreshed (some (x.refresh tool shell).1)) (x.refresh tool shell).2.state := by
  rw [(refresh_eq x).1, (refresh_eq x).2]
  cases ho : Query.outputs tool shell x.state.settings x.tool with
  | ok o => exact .indexed hc ho
  | error fault => exact .failed hc ho

theorem comes_deed (x : Session σ) (call : Call) : (deed tool shell x call).Comes tool shell := by
  cases call with
  | refresh => exact comes_of_refreshes rfl
  | tryRefresh busy =>
    cases busy with
    | false => exact comes_of_refreshes rfl
    | true => exact .skipped
  | replace w stats => exact .replaced
  | recordFailure fault => exact .reported
  | update settings => exact .installed
  | snapshot => exact .taken

end deed

/-! ## All calls -/

section accounts
variable {σ : Type} {tool : Tool σ} {shell : Shell} {settings : Settings} {x : Session σ}
  {past : List (Deed σ)} {d : Deed σ} {s s' : State}

theorem performAll_concat (x : Session σ) (calls : List Call) (call : Call) :
    performAll tool shell x (calls ++ [call]) =
      (perform tool shell (performAll tool shell x calls) call).2 := by
  simp [performAll]

theorem deeds_concat (x : Session σ) (calls : List Call) (call : Call) :
    deeds tool shell x (calls ++ [call]) =
      deeds tool shell x calls ++ [deed tool shell (performAll tool shell x calls) call] := by
  induction calls generalizing x with
  | nil => rfl
  | cons first calls ih =>
    rw [List.cons_append, deeds, ih, deeds, List.cons_append]
    rfl

/-- The trees that were in use, oldest first; the empty one was there at first. -/
def trees (past : List (Deed σ)) : List Workspace :=
  .empty :: past.filterMap fun d => d.event.tree?

/-- The state of a session, read off the calls of its past. -/
structure Accounted (tool : Tool σ) (shell : Shell) (settings : Settings) (past : List (Deed σ))
    (s : State) : Prop where
  comes : ∀ d ∈ past, d.Comes tool shell
  generation : s.generation =
    past.countP (fun d => d.answer.succeeded) + past.countP fun d => d.call.replaces
  tree : (trees past).getLast? = some s.current.workspace
  settings : s.settings = ((past.filterMap fun d => d.event.settings?).getLast?).getD settings
  record : s.lastRefresh = (past.filterMap fun d => d.event.record?).getLast?
  /-- A refresh returns a fault when one of its queries fails, and then it leaves only that. -/
  failing : ∀ d ∈ past, ∀ fault, d.answer = .refreshed (some (.error fault)) ↔
    d.call.refreshes ∧ Query.outputs tool shell d.found.state.settings d.found.tool = .error fault
  kept : ∀ d ∈ past, ∀ fault, d.answer = .refreshed (some (.error fault)) →
    d.left.current = d.found.state.current ∧ d.left.settings = d.found.state.settings ∧
      d.left.lastRefresh = some (.error fault.message)
  /-- A snapshot has the tree that was in use when it was taken, the one of its generation. -/
  snapshots : ∀ d ∈ past, ∀ snap, d.answer = .snapshot snap →
    snap = d.found.state.current ∧ (trees past)[snap.generation]? = some snap.workspace

/-! ### What one call adds -/

theorem getLast?_filterMap_concat {α β : Type} (f : α → Option β) (xs : List α) (a : α) :
    ((xs ++ [a]).filterMap f).getLast? = (f a).or (xs.filterMap f).getLast? := by
  rw [List.filterMap_append]
  cases ha : f a <;> simp [ha]

theorem trees_concat (past : List (Deed σ)) (d : Deed σ) :
    trees (past ++ [d]) = trees past ++ d.event.tree?.toList := by
  rw [trees, List.filterMap_append]
  cases hd : d.event.tree? <;> simp [trees, hd]

theorem getLast?_trees_concat (past : List (Deed σ)) (d : Deed σ) :
    (trees (past ++ [d])).getLast? = d.event.tree?.or (trees past).getLast? := by
  rw [trees_concat]
  cases d.event.tree? <;> simp

namespace Comes
variable {call : Call} {event : Event} {answer : Answer}

theorem state_eq (h : Comes tool shell x call event answer s) :
    s.current.workspace = event.tree?.getD x.state.current.workspace ∧
      s.settings = event.settings?.getD x.state.settings ∧
      s.lastRefresh = event.record?.or x.state.lastRefresh := by
  cases h <;> exact ⟨rfl, rfl, rfl⟩

theorem generation_eq (h : Comes tool shell x call event answer s) :
    s.generation = x.state.generation + event.tree?.toList.length := by
  cases h <;> rfl

theorem generation_le (h : Comes tool shell x call event answer s) :
    s.generation ≤ x.state.generation + 1 := by
  rw [generation_eq h]
  exact Nat.add_le_add_left Option.length_toList_le _

/-- A tree comes into use by a refresh that succeeds or by a call that replaces, never by both
at once. -/
theorem length_tree? (h : Comes tool shell x call event answer s) :
    event.tree?.toList.length = answer.succeeded.toNat + call.replaces.toNat := by
  cases h with
  | indexed hc | failed hc => rw [Call.not_replaces_of_refreshes hc]; rfl
  | _ => rfl

theorem failing (h : Comes tool shell x call event answer s) {fault : Fault} :
    answer = .refreshed (some (.error fault)) ↔ call.refreshes ∧
      Query.outputs tool shell x.state.settings x.tool = .error fault := by
  cases h with
  | indexed hc ho => simp [ho]
  | failed hc ho => simp [hc, ho]
  | _ => simp [Call.refreshes]

theorem kept (h : Comes tool shell x call event answer s) {fault : Fault}
    (ha : answer = .refreshed (some (.error fault))) :
    s.current = x.state.current ∧ s.settings = x.state.settings ∧
      s.lastRefresh = some (.error fault.message) := by
  subst ha
  cases h
  exact ⟨rfl, rfl, rfl⟩

theorem snapshot_eq (h : Comes tool shell x call event answer s) {snap : Snapshot}
    (ha : answer = .snapshot snap) : snap = x.state.current ∧ event.tree? = none := by
  subst ha
  cases h
  exact ⟨rfl, rfl⟩

end Comes

/-! ### All of them -/

theorem length_trees (h : ∀ d ∈ past, d.Comes tool shell) : (trees past).length =
    past.countP (fun d => d.answer.succeeded) + past.countP (fun d => d.call.replaces) + 1 := by
  induction past using List.reverseRecOn with
  | nil => rfl
  | append_singleton past d ih =>
    have hpast := ih fun e he => h e (List.mem_append_left _ he)
    have hd := Comes.length_tree? (h d (by simp))
    rw [trees_concat, List.length_append, List.countP_append, List.countP_append, hpast, hd]
    simp only [List.countP_singleton]
    cases d.answer.succeeded <;> cases d.call.replaces <;> simp <;> omega

theorem Accounted.found (h : Accounted tool shell settings past s) :
    (trees past)[s.generation]? = some s.current.workspace := by
  have hlen := length_trees h.comes
  have hlast := h.tree
  rw [List.getLast?_eq_getElem?, hlen, ← h.generation] at hlast
  exact hlast

theorem Accounted.next (h : Accounted tool shell settings past d.found.state)
    (hd : d.Comes tool shell) : Accounted tool shell settings (past ++ [d]) d.left := by
  obtain ⟨htree, hsettings, hrecord⟩ := Comes.state_eq hd
  have hboth : ∀ {P : Deed σ → Prop}, (∀ e ∈ past, P e) → P d → ∀ e ∈ past ++ [d], P e := by
    intro P hpast hlast e he
    rcases List.mem_append.mp he with he | he
    · exact hpast e he
    · exact List.mem_singleton.mp he ▸ hlast
  refine ⟨hboth h.comes hd, ?_, ?_, ?_, ?_, hboth h.failing fun fault => Comes.failing hd,
    hboth h.kept fun fault => Comes.kept hd,
    hboth (fun e he snap hsnap => ?_) fun snap hsnap => ?_⟩
  · rw [Comes.generation_eq hd, h.generation, Comes.length_tree? hd, List.countP_append,
      List.countP_append]
    simp only [List.countP_singleton]
    cases d.answer.succeeded <;> cases d.call.replaces <;> simp <;> omega
  · rw [getLast?_trees_concat, h.tree, htree]
    cases d.event.tree? <;> rfl
  · rw [getLast?_filterMap_concat, hsettings, h.settings]
    cases d.event.settings? <;> rfl
  · rw [getLast?_filterMap_concat, hrecord, h.record]
  · obtain ⟨hwhen, hat⟩ := h.snapshots e he snap hsnap
    refine ⟨hwhen, ?_⟩
    rw [trees_concat, List.getElem?_append_left (List.getElem?_eq_some_iff.mp hat).1, hat]
  · obtain ⟨rfl, hnone⟩ := Comes.snapshot_eq hd hsnap
    refine ⟨rfl, ?_⟩
    rw [trees_concat, hnone, Option.toList_none, List.append_nil]
    exact h.found

theorem accounted_opened {st : σ} :
    Accounted tool shell settings [] (opened settings st).state where
  comes := by simp
  generation := rfl
  tree := rfl
  settings := rfl
  record := rfl
  failing := by simp
  kept := by simp
  snapshots := by simp

/-- Whatever is called on a new session, in any order and with any replies of the tool, its state
is the one that the calls account for. -/
theorem calls_accounted (tool : Tool σ) (shell : Shell) (settings : Settings) (st : σ)
    (calls : List Call) : Accounted tool shell settings
      (deeds tool shell (opened settings st) calls)
      (performAll tool shell (opened settings st) calls).state := by
  induction calls using List.reverseRecOn with
  | nil => exact accounted_opened
  | append_singleton calls call ih =>
    rw [deeds_concat, performAll_concat]
    exact ih.next (comes_deed _ call)

theorem generation_le_length (tool : Tool σ) (shell : Shell) (settings : Settings) (st : σ)
    (calls : List Call) :
    (performAll tool shell (opened settings st) calls).state.generation ≤ calls.length := by
  induction calls using List.reverseRecOn with
  | nil => exact Nat.le_refl 0
  | append_singleton calls call ih =>
    rw [performAll_concat, List.length_append, List.length_singleton]
    exact Nat.le_trans (Comes.generation_le (comes_deed _ call)) (Nat.add_le_add_right ih 1)

/-- No call brings more than one tree into use, so a counter of 64 bits does not wrap before as
many calls as it has values. -/
theorem generation_eq_counter (tool : Tool σ) (shell : Shell) (settings : Settings) (st : σ)
    (calls : List Call) (h : calls.length < UInt64.size) :
    (UInt64.ofNat (performAll tool shell (opened settings st) calls).state.generation).toNat =
      (performAll tool shell (opened settings st) calls).state.generation := by
  have hle := generation_le_length tool shell settings st calls
  exact UInt64.toNat_ofNat_of_lt' (Nat.lt_of_le_of_lt hle h)

/-- A refresh that ends well, one that fails at its second query, and one that finds the replies
used up. -/
example :
    let past := deeds Script.tool .posix (opened {}
        { replies := [.output (.success "cc_binary rule //a:x"), .output (.success "//a:x.cc"),
          .output (.success "cc_binary rule //b:y"), .output (.failure 2 "ERROR: no package")] })
      [.refresh, .snapshot, .refresh, .tryRefresh false]
    past.map (fun d => (d.left.generation, d.left.lastRefresh)) =
      [(1, some (.ok ⟨1, 1, 0, 2⟩)), (1, some (.ok ⟨1, 1, 0, 2⟩)),
        (1, some (.error "build tool query failed: ERROR: no package")),
        (1, some (.error
          "failed to dispatch `bazel query //... --output label_kind`: no scripted reply"))] := by
  decide +kernel

end accounts

end BuildAtlas.Session
