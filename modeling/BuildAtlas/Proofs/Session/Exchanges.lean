import BuildAtlas.Proofs.Session.Calls
import BuildAtlas.Proofs.Session.Replies
import BuildAtlas.Session.Refresher

/-! # Commands and replies of a session

Queries of a pipeline, refreshes of the session over it, new settings and further replies come
in any order, and a scripted tool answers. Which commands are issued is up to the answers and to
the settings in force: the pipeline's for its own queries, the session's for a refresh. Which
reply answers them is up to the order alone.
-/
namespace BuildAtlas

namespace Refresher

def Request.settings? : Request → Option Settings
  | update settings => some settings
  | _ => none

section steps
variable {σ τ : Type} {tool : Tool σ} {plain : Tool τ} {f : σ → τ} {shell : Shell}
  {push : σ → Reply → σ} {pushPlain : τ → Reply → τ}

def mapTool (f : σ → τ) (x : Refresher σ) : Refresher τ := ⟨x.session.mapTool f, x.own, x.tree⟩

theorem performAll_concat (x : Refresher σ) (requests : List Request) (request : Request) :
    performAll tool shell push x (requests ++ [request]) =
      perform tool shell push (performAll tool shell push x requests) request := by
  simp [performAll]

theorem tool_refreshIndex (x : Refresher σ) : (x.refreshIndex tool shell).2.session.tool =
    (Query.index tool shell x.own x.session.tool).tool := by
  simp only [refreshIndex, Query.refreshIndex]
  cases (Query.index tool shell x.own x.session.tool).result <;> rfl

theorem tool_refresh (x : Session σ) : (x.refresh tool shell).2.tool =
    (Query.index tool shell x.state.settings x.tool).tool := by
  simp only [Session.refresh]
  cases (Query.index tool shell x.state.settings x.tool).result <;> rfl

theorem settings_perform (x : Refresher σ) (request : Request) :
    (perform tool shell push x request).own = x.own ∧
      (perform tool shell push x request).session.state.settings =
        request.settings?.getD x.session.state.settings := by
  cases request with
  | refreshIndex =>
    simp only [perform, refreshIndex, Query.refreshIndex]
    cases (Query.index tool shell x.own x.session.tool).result <;> exact ⟨rfl, rfl⟩
  | refresh =>
    refine ⟨rfl, ?_⟩
    simp only [perform, Session.refresh]
    cases (Query.index tool shell x.session.state.settings x.session.tool).result <;> rfl
  | _ => exact ⟨rfl, rfl⟩

theorem settings_performAll (x : Refresher σ) (requests : List Request) :
    (performAll tool shell push x requests).own = x.own ∧
      (performAll tool shell push x requests).session.state.settings =
        ((requests.filterMap Request.settings?).getLast?).getD x.session.state.settings := by
  induction requests using List.reverseRecOn with
  | nil => exact ⟨rfl, rfl⟩
  | append_singleton requests request ih =>
    obtain ⟨hown, hsettings⟩ := settings_perform (performAll tool shell push x requests) request
    rw [performAll_concat, hown, hsettings, ih.1, ih.2, Session.getLast?_filterMap_concat]
    cases request.settings? <;> exact ⟨rfl, rfl⟩

theorem perform_mapTool (h : tool.LooksLike f plain)
    (hpush : ∀ st reply, f (push st reply) = pushPlain (f st) reply) (x : Refresher σ)
    (request : Request) : (perform tool shell push x request).mapTool f =
      perform plain shell pushPlain (x.mapTool f) request := by
  cases request with
  | targets => exact congrArg (x.mapTool f).after (Query.targets_mapTool h ..)
  | sources => exact congrArg (x.mapTool f).after (Query.sources_mapTool h ..)
  | build => exact congrArg (x.mapTool f).after (Query.index_mapTool h ..)
  | refreshIndex =>
    have hindex : Query.index plain shell (x.mapTool f).own (x.mapTool f).session.tool =
        (Query.index tool shell x.own x.session.tool).mapTool f :=
      (Query.index_mapTool h ..).symm
    simp only [perform, refreshIndex, Query.refreshIndex, hindex]
    rcases Query.index tool shell x.own x.session.tool with ⟨result, next, notes⟩
    cases result <;> rfl
  | refresh =>
    have hrefresh := congrArg Prod.snd (Session.refresh_mapTool h shell x.session)
    exact congrArg (Refresher.mk · x.own x.tree) hrefresh.symm
  | update settings => rfl
  | pushFailure exitCode stderr =>
    have htool := hpush x.session.tool (.output (.failure exitCode stderr))
    exact congrArg (Refresher.mk ⟨x.session.state, ·, x.session.notes⟩ x.own x.tree) htool

end steps

/-! ## Requests one after another -/

section scripted
variable {shell : Shell} {start : Refresher Script} {requests : List Request}

/-- The events that one request adds to the log, under the pipeline's settings and the session's. -/
inductive Issued (shell : Shell) (own current : Settings) : Request → List Script.Event → Prop
  | targets {source given} : Issued shell own current .targets
      [.asked (Query.targetCommand shell own) source given]
  | sources {source given} : Issued shell own current .sources
      [.asked (Query.sourceCommand shell own) source given]
  | build {segment} : Script.Built shell own segment → Issued shell own current .build segment
  | refreshIndex {segment} : Script.Built shell own segment →
      Issued shell own current .refreshIndex segment
  | refresh {segment} : Script.Built shell current segment →
      Issued shell own current .refresh segment
  | update {settings} : Issued shell own current (.update settings) []
  | pushFailure {exitCode stderr} : Issued shell own current (.pushFailure exitCode stderr)
      [.queued (.output (.failure exitCode stderr))]

def run (shell : Shell) (start : Refresher Script) (requests : List Request) : Refresher Script :=
  performAll Script.tool shell Script.push start requests

def watch (shell : Shell) (start : Refresher Script) (requests : List Request) :
    Refresher (Script × List Script.Event) :=
  performAll Script.watched shell Script.watchedPush (start.mapTool fun s => (s, [])) requests

/-- All commands, answers and new replies, oldest first. -/
def log (shell : Shell) (start : Refresher Script) (requests : List Request) :
    List Script.Event := (watch shell start requests).session.tool.2

theorem watch_concat (request : Request) : watch shell start (requests ++ [request]) =
    perform Script.watched shell Script.watchedPush (watch shell start requests) request :=
  performAll_concat ..

theorem run_concat (request : Request) : run shell start (requests ++ [request]) =
    perform Script.tool shell Script.push (run shell start requests) request :=
  performAll_concat ..

/-- What is watched goes on as if it were not. -/
theorem watch_mapTool : (watch shell start requests).mapTool Prod.fst = run shell start requests := by
  induction requests using List.reverseRecOn with
  | nil => rfl
  | append_singleton requests request ih =>
    have hpush : ∀ st reply, (Script.watchedPush st reply).1 = st.1.push reply :=
      fun st reply => rfl
    rw [watch_concat, run_concat, perform_mapTool Script.watched_looksLike hpush, ih]

theorem grows_perform (shell : Shell) (x : Refresher (Script × List Script.Event))
    (request : Request) : ∃ segment, Script.Grows x.session.tool
        (perform Script.watched shell Script.watchedPush x request).session.tool segment ∧
      Issued shell x.own x.session.state.settings request segment := by
  cases request with
  | targets =>
    have hrun := Script.grows_run (Query.targetCommand shell x.own) x.session.tool
    rw [← Query.targets_tool] at hrun
    exact ⟨_, hrun, .targets⟩
  | sources =>
    have hrun := Script.grows_run (Query.sourceCommand shell x.own) x.session.tool
    rw [← Query.sources_tool] at hrun
    exact ⟨_, hrun, .sources⟩
  | build =>
    obtain ⟨segment, hgrows, hbuilt⟩ := Script.grows_index shell x.own x.session.tool
    exact ⟨segment, hgrows, .build hbuilt⟩
  | refreshIndex =>
    obtain ⟨segment, hgrows, hbuilt⟩ := Script.grows_index shell x.own x.session.tool
    rw [← tool_refreshIndex] at hgrows
    exact ⟨segment, hgrows, .refreshIndex hbuilt⟩
  | refresh =>
    obtain ⟨segment, hgrows, hbuilt⟩ :=
      Script.grows_index shell x.session.state.settings x.session.tool
    rw [← tool_refresh] at hgrows
    exact ⟨segment, hgrows, .refresh hbuilt⟩
  | update settings => exact ⟨[], ⟨(List.append_nil _).symm, .done⟩, .update⟩
  | pushFailure exitCode stderr => exact ⟨_, Script.grows_push _ _, .pushFailure⟩

/-- Commands and replies of a run, and what one more request would add to them. -/
structure Exchanged (shell : Shell) (start : Refresher Script) (requests : List Request) :
    Prop where
  matched : Script.Matched start.session.tool (log shell start requests)
    (run shell start requests).session.tool
  settings : (run shell start requests).session.state.settings =
    ((requests.filterMap Request.settings?).getLast?).getD start.session.state.settings
  next : ∀ request, ∃ segment,
    log shell start (requests ++ [request]) = log shell start requests ++ segment ∧
    Issued shell start.own (run shell start requests).session.state.settings request segment ∧
    (run shell start (requests ++ [request])).session.tool.replies =
      (run shell start requests).session.tool.replies.drop (Script.commands segment).length ++
        Script.added segment

theorem exists_segment (shell : Shell) (start : Refresher Script) (requests : List Request)
    (request : Request) : ∃ segment,
      log shell start (requests ++ [request]) = log shell start requests ++ segment ∧
      (run shell start requests).session.tool.Serves segment
        (run shell start (requests ++ [request])).session.tool ∧
      Issued shell start.own (run shell start requests).session.state.settings request
        segment := by
  obtain ⟨segment, ⟨hlog, hserves⟩, hissued⟩ :=
    grows_perform shell (watch shell start requests) request
  have hown : (watch shell start requests).own = start.own := (settings_performAll _ _).1
  rw [hown] at hissued
  rw [log, log, ← watch_mapTool, ← watch_mapTool, watch_concat]
  exact ⟨segment, hlog, hserves, hissued⟩

theorem serves_run (shell : Shell) (start : Refresher Script) (requests : List Request) :
    start.session.tool.Serves (log shell start requests) (run shell start requests).session.tool := by
  induction requests using List.reverseRecOn with
  | nil => exact .done
  | append_singleton requests request ih =>
    obtain ⟨segment, hlog, hserves, -⟩ := exists_segment shell start requests request
    exact hlog ▸ ih.trans hserves

theorem Issued.replies_eq {own current : Settings} {request : Request}
    {segment : List Script.Event} {s s' : Script} (h : Issued shell own current request segment)
    (hserves : s.Serves segment s') :
    s'.replies = s.replies.drop (Script.commands segment).length ++ Script.added segment := by
  have hdrop : Script.added segment = [] →
      s'.replies = s.replies.drop (Script.commands segment).length ++ Script.added segment := by
    intro hnone
    rw [hnone, List.append_nil, hserves.replies_eq hnone]
  cases h with
  | build hbuilt | refreshIndex hbuilt | refresh hbuilt => exact hdrop hbuilt.added_eq_nil
  | pushFailure => exact hserves.matched.conserved
  | targets | sources | update => exact hdrop rfl

/-- In every run a command draws the first reply that is left, and its number is the number of
that reply until one finds the queue used up. A build goes on to its second query if the first
was answered by an exit code of zero. A refresh goes by the settings installed last, and the
queries of the pipeline by the pipeline's own. -/
theorem exchanges_matched (shell : Shell) (start : Refresher Script) (requests : List Request) :
    Exchanged shell start requests where
  matched := (serves_run shell start requests).matched
  settings := (settings_performAll start requests).2
  next request := by
    obtain ⟨segment, hlog, hserves, hissued⟩ := exists_segment shell start requests request
    exact ⟨segment, hlog, hissued, hissued.replies_eq hserves⟩

def unscripted : Refresher Script where
  session :=
    { state := { settings := {} }
      tool := { answers := some ⟨"cc_library rule //a:x\n", "//a:x.cc\n"⟩ } }
  own := {}

/-- A reply that is queued when the queue has run dry answers a command of a higher number, here
the first reply the third command. -/
theorem late_reply_out_of_step :
    ¬ ∀ shell start requests before c source given,
      before ++ [.asked c source given] <+: log shell start requests →
        source = (start.session.tool.replies ++
          Script.added before)[(Script.commands before).length]? := by
  intro hstep
  let requests : List Request := [.refresh, .pushFailure 1 "ERROR: x\n", .refresh]
  let before := (log .posix unscripted requests).take 3
  have hthird : before ++ [.asked (Query.targetCommand .posix {})
      (some (.output (.failure 1 "ERROR: x\n"))) (.ok (.failure 1 "ERROR: x\n"))] <+:
      log .posix unscripted requests := by
    decide +kernel
  have hnone : (unscripted.session.tool.replies ++
      Script.added before)[(Script.commands before).length]? = none := by
    decide +kernel
  cases (hstep _ _ _ _ _ _ _ hthird).trans hnone

end scripted

end Refresher

end BuildAtlas
