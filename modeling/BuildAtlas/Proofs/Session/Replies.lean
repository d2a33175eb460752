import BuildAtlas.Proofs.Query.Observed
import BuildAtlas.Proofs.Query.Outcome
import BuildAtlas.Session.Script
import Mathlib.Data.List.Infix

/-! # Replies in their order

Each command to a scripted tool takes the first reply that is left, and nothing else takes one.
So replies are used in the order they were queued in, and the numbers of a command and of its
reply agree until a command finds the queue used up. A reply queued later than that answers a
command of a higher number.
-/
namespace BuildAtlas

namespace Script

/-! ## A scripted tool that is watched -/

/-- What a scripted tool goes through. With a command goes the reply that was first in the queue
when it came. -/
inductive Event where
  | asked (c : Command) (source : Option Reply) (answer : Except Fault Output)
  | queued (reply : Reply)
  deriving DecidableEq

namespace Event

@[simp] def command? : Event → Option Command
  | asked c _ _ => some c
  | queued _ => none

@[simp] def source? : Event → Option Reply
  | asked _ source _ => source
  | queued _ => none

@[simp] def queued? : Event → Option Reply
  | asked _ _ _ => none
  | queued reply => some reply

end Event

def commands (log : List Event) : List Command := log.filterMap Event.command?

def used (log : List Event) : List Reply := log.filterMap Event.source?

def added (log : List Event) : List Reply := log.filterMap Event.queued?

/-- The scripted tool with a log beside it. -/
def watched : Tool (Script × List Event) where
  run c st :=
    let (answer, s) := st.1.reply c.line
    (answer, s, st.2 ++ [.asked c st.1.replies.head? answer])

def watchedPush (st : Script × List Event) (reply : Reply) : Script × List Event :=
  (st.1.push reply, st.2 ++ [.queued reply])

theorem watched_looksLike : watched.LooksLike Prod.fst Script.tool := fun _ _ => rfl

/-- Going through the events of a log, one after another. -/
inductive Serves (s : Script) : List Event → Script → Prop
  | done : Serves s [] s
  | asked {log s'} (c : Command) : Serves s log s' →
      Serves s (log ++ [.asked c s'.replies.head? (s'.reply c.line).1]) (s'.reply c.line).2
  | queued {log s'} (reply : Reply) : Serves s log s' →
      Serves s (log ++ [.queued reply]) (s'.push reply)

theorem Serves.trans {s s' s'' : Script} {log log' : List Event} (h : Serves s log s')
    (h' : Serves s' log' s'') : Serves s (log ++ log') s'' := by
  induction h' with
  | done => rwa [List.append_nil]
  | asked c _ ih => rw [← List.append_assoc]; exact .asked c ih
  | queued reply _ ih => rw [← List.append_assoc]; exact .queued reply ih

/-! ## Which reply answers which command -/

/-- A command is answered by a reply, and without one by the fixed workspace or by the fault that
there is none. -/
def answer (s : Script) (line : String) : Option Reply → Except Fault Output
  | some reply => Reply.result line reply
  | none => s.fallback line

theorem reply_eq (s : Script) (line : String) : s.reply line =
    (s.answer line s.replies.head?,
      { s with replies := s.replies.tail, received := s.received ++ [line] }) := by
  rcases s with ⟨replies, answers, received⟩
  cases replies <;> rfl

section drawn
variable {s s' : Script} {log before : List Event} {c : Command} {source : Option Reply}
  {given : Except Fault Output}

/-- Of what has been queued so far a command draws the first reply that is not used, and none
just when all of them are. -/
structure Drawn (s : Script) (before : List Event) (c : Command) (source : Option Reply)
    (given : Except Fault Output) : Prop where
  next : source = (s.replies ++ added before)[(used before).length]?
  dry : source = none ↔ used before = s.replies ++ added before
  /-- Its number is the number of its reply, if no command before it was without one. -/
  number : (∀ c' given', .asked c' none given' ∉ before) →
    source = (s.replies ++ added before)[(commands before).length]?
  given : given = s.answer c.line source

/-- Replies and commands of a log that leads from `s` to `s'`. -/
structure Matched (s : Script) (log : List Event) (s' : Script) : Prop where
  received : s'.received = s.received ++ (commands log).map (·.line)
  answers : s'.answers = s.answers
  /-- No reply is skipped, and none is used twice. -/
  conserved : used log ++ s'.replies = s.replies ++ added log
  drawn : ∀ before c source given, before ++ [.asked c source given] <+: log →
    Drawn s before c source given

theorem length_used (h : ∀ c given, .asked c none given ∉ before) :
    (used before).length = (commands before).length := by
  induction before with
  | nil => rfl
  | cons e before ih =>
    have hrest := ih fun c given hmem => h c given (List.mem_cons_of_mem _ hmem)
    cases e with
    | queued reply => exact hrest
    | asked c source given =>
      cases source with
      | none => exact absurd List.mem_cons_self (h c given)
      | some reply => exact congrArg (· + 1) hrest

theorem Matched.drawn_head (h : Matched s log s') (c : Command) :
    Drawn s log c s'.replies.head? (s'.reply c.line).1 := by
  -- what is left stands behind what was used, so its head has the number of what was used
  have hnext : s'.replies.head? = (s.replies ++ added log)[(used log).length]? := by
    rw [← h.conserved, List.getElem?_append_right (Nat.le_refl _), Nat.sub_self,
      List.head?_eq_getElem?]
  refine ⟨hnext, ?_, fun hall => length_used hall ▸ hnext, ?_⟩
  · rw [List.head?_eq_none_iff, ← h.conserved, List.self_eq_append_right]
  · -- the fixed workspace is the same all along
    rw [reply_eq]
    cases s'.replies.head? with
    | none => rw [answer, answer, fallback, fallback, h.answers]
    | some reply => rfl

theorem Serves.matched (h : Serves s log s') : Matched s log s' := by
  induction h with
  | done => exact ⟨by simp [commands], rfl, by simp [used, added], by simp⟩
  | @asked log s' c _ ih =>
    refine ⟨?_, ?_, ?_, fun before c' source given hprefix => ?_⟩
    · simp [reply_eq, ih.received, commands]
    · rw [reply_eq, ih.answers]
    · have hconserved := ih.conserved
      rw [reply_eq]
      cases hreplies : s'.replies with
      | nil => simpa [used, added, hreplies, List.filterMap_cons] using hconserved
      | cons next rest => simpa [used, added, hreplies, List.filterMap_cons] using hconserved
    · rcases List.prefix_concat_iff.mp hprefix with hlast | hearlier
      · obtain ⟨rfl, hevent⟩ := List.append_inj' hlast rfl
        cases hevent
        exact ih.drawn_head c
      · exact ih.drawn before c' source given hearlier
  | @queued log s' reply _ ih =>
    refine ⟨?_, ih.answers, ?_, fun before c source given hprefix => ?_⟩
    · simp [push, commands, ih.received]
    · have hconserved := congrArg (· ++ [reply]) ih.conserved
      simpa [push, used, added, List.filterMap_cons] using hconserved
    · rcases List.prefix_concat_iff.mp hprefix with hlast | hearlier
      · cases (List.append_inj' hlast rfl).2
      · exact ih.drawn before c source given hearlier

/-- Without new replies each command takes one away, as long as there is one. -/
theorem Serves.replies_eq (h : Serves s log s') (hnone : added log = []) :
    s'.replies = s.replies.drop (commands log).length := by
  induction h with
  | done => rfl
  | asked c _ ih =>
    rw [added, List.filterMap_append] at hnone
    rw [reply_eq, ih (List.append_eq_nil_iff.mp hnone).1]
    simp [commands]
  | queued reply _ ih => simp [added] at hnone

end drawn

/-! ## What queries add to a log -/

section queries
variable {st st' st'' : Script × List Event} {segment segment' : List Event}

def Grows (st st' : Script × List Event) (segment : List Event) : Prop :=
  st'.2 = st.2 ++ segment ∧ Serves st.1 segment st'.1

theorem Grows.trans (h : Grows st st' segment) (h' : Grows st' st'' segment') :
    Grows st st'' (segment ++ segment') := by
  obtain ⟨hlog, hserves⟩ := h
  obtain ⟨hlog', hserves'⟩ := h'
  exact ⟨by rw [hlog', hlog, List.append_assoc], hserves.trans hserves'⟩

theorem grows_run (c : Command) (st : Script × List Event) :
    Grows st (watched.run c st).2 [.asked c st.1.replies.head? (watched.run c st).1] :=
  ⟨rfl, .asked c .done⟩

theorem grows_push (st : Script × List Event) (reply : Reply) :
    Grows st (watchedPush st reply) [.queued reply] :=
  ⟨rfl, .queued reply .done⟩

/-- The source query is issued if the target query was answered by an output that exits with
zero, and otherwise not. -/
inductive Built (shell : Shell) (settings : Settings) : List Event → Prop
  | stopped {source given} : (∀ o, given = .ok o → o.exitCode ≠ 0) →
      Built shell settings [.asked (Query.targetCommand shell settings) source given]
  | whole {source source' o given'} : o.exitCode = 0 →
      Built shell settings [.asked (Query.targetCommand shell settings) source (.ok o),
        .asked (Query.sourceCommand shell settings) source' given']

theorem Built.added_eq_nil {shell : Shell} {settings : Settings}
    (h : Built shell settings segment) : added segment = [] := by
  cases h <;> rfl

theorem grows_index (shell : Shell) (settings : Settings) (st : Script × List Event) :
    ∃ segment, Grows st (Query.index watched shell settings st).tool segment ∧
      Built shell settings segment := by
  -- what comes of the first query decides whether there is a second one
  have hfirst := grows_run (Query.targetCommand shell settings) st
  simp only [Query.index_tool]
  rcases hrun : watched.run (Query.targetCommand shell settings) st with ⟨given, next⟩
  rw [hrun] at hfirst
  cases houtcome : Query.outcome settings given with
  | ok o =>
    obtain ⟨rfl, hsucceeded⟩ := Query.outcome_eq_ok_iff.mp houtcome
    have hsecond := grows_run (Query.sourceCommand shell settings) next
    have hexit : o.exitCode = 0 := by simpa [Output.succeeded] using hsucceeded
    exact ⟨_, hfirst.trans hsecond, .whole hexit⟩
  | error fault =>
    refine ⟨_, hfirst, .stopped ?_⟩
    rintro o rfl hexit
    have hok : Query.outcome settings (.ok o) = .ok o :=
      Query.outcome_eq_ok_iff.mpr ⟨rfl, by simp [Output.succeeded, hexit]⟩
    cases houtcome.symm.trans hok

end queries

end Script

end BuildAtlas
