import BuildAtlas.Posix.Process

/-! # Time in the system

The clock only goes forward, and an end of the first process is put on record with the time at
which it comes. So a program that is waited for up to a limit does what it does without one; the
limit decides only whether it is in time.
-/
namespace BuildAtlas.Posix

namespace Kernel

/-- A state that the system may be in later on. What is on record is what was there before, or
was put there in the meantime. -/
structure Later (k k' : Kernel) : Prop where
  clock : k.clock ≤ k'.clock
  result : k'.result = k.result ∨ ∃ e t, k'.result = some (e, t) ∧ k.clock ≤ t

variable {k k' k'' : Kernel} {p : Process} {load : Loader} {limit : Option Nat} {n rounds : Nat}

namespace Later

theorem of_eq (hclock : k'.clock = k.clock) (hresult : k'.result = k.result) : k.Later k' :=
  ⟨Nat.le_of_eq hclock.symm, Or.inl hresult⟩

theorem refl (k : Kernel) : k.Later k := of_eq rfl rfl

theorem trans (h : k.Later k') (h' : k'.Later k'') : k.Later k'' := by
  refine ⟨Nat.le_trans h.clock h'.clock, ?_⟩
  rcases h'.result with hsame | ⟨e, t, hnew, ht⟩
  · rw [hsame]
    exact h.result
  · exact Or.inr ⟨e, t, hnew, Nat.le_trans h.clock ht⟩

theorem wait (h : k.Later k') {clock : Nat} (hclock : k'.clock ≤ clock) :
    k.Later { k' with clock } := ⟨Nat.le_trans h.clock hclock, h.result⟩

theorem tick (h : k.Later k') : k.Later { k' with clock := k'.clock + callTime } :=
  h.wait (Nat.le_add_right _ _)

end Later

theorem later_bury (k : Kernel) (p : Process) : k.Later (k.bury p) := by
  unfold bury
  cases p.phase with
  | running program => exact .of_eq rfl rfl
  | ended e =>
    dsimp only
    split
    · exact ⟨Nat.le_refl _, Or.inr ⟨e, k.clock, rfl, Nat.le_refl _⟩⟩
    · split <;> exact .of_eq rfl rfl

/-! ## Calls -/

/-- A call leads to a later state, whether it is done or has to be tried again. -/
def Outcome.Later {α : Type} (k : Kernel) : Outcome α → Prop
  | done _ k' _ => k.Later k'
  | blocked k' _ => k.Later k'

theorem later_openEntry {place : FilePath} {e : Entry} {mode : OpenMode} {f : OpenFile}
    (h : k.openEntry p place e mode = .ok (k', f)) : k.Later k' := by
  unfold openEntry at h
  split at h
  · cases h
  · cases e with
    | directory => dsimp only at h; split at h <;> cases h; exact .refl k
    | file bytes executable => cases h; split <;> exact .of_eq rfl rfl
    | program name => cases h; exact .refl k
    | device d => cases d <;> cases h <;> exact .refl k
    | link target => cases h
    | descriptor n =>
      dsimp only at h
      split at h
      · cases h
      · split at h
        · cases h
          split
          · split <;> exact .of_eq rfl rfl
          · exact .refl k
        · split at h <;> cases h
          exact .refl k
        · cases h
          exact .refl k

theorem later_openPath {path : String} {mode : OpenMode} {f : OpenFile}
    (h : k.openPath p path mode = .ok (k', f)) : k.Later k' := by
  unfold openPath at h
  dsimp only at h
  split at h
  · split at h
    · split at h <;> cases h
    · cases h
  · split at h
    · exact later_openEntry h
    · split at h <;> cases h
      exact .of_eq rfl rfl

theorem later_readBytes (k : Kernel) (p : Process) (n count : Nat) :
    (k.readBytes p n count).Later k := by
  unfold readBytes
  repeat' first | split | dsimp only
  all_goals exact Later.of_eq rfl rfl

theorem later_writeBytes (k : Kernel) (p : Process) (n : Nat) (bytes : ByteArray) :
    (k.writeBytes p n bytes).Later k := by
  unfold writeBytes
  repeat' first | split | dsimp only
  all_goals exact Later.of_eq rfl rfl

theorem later_waitFor (k : Kernel) (p : Process) (child : Option Nat) (hang : Bool) :
    (k.waitFor p child hang).Later k := by
  unfold waitFor
  repeat' split
  all_goals exact Later.of_eq rfl rfl

theorem later_sendSignal (k : Kernel) (p : Process) (pid : Int) (n : Nat) :
    (k.sendSignal p pid n).Later k := by
  unfold sendSignal
  repeat' first | split | dsimp only
  all_goals first
    | exact Later.of_eq rfl rfl
    | refine Later.trans ?_ (later_bury _ _)
      exact Later.of_eq rfl rfl

theorem later_perform (k : Kernel) (p : Process) (c : Call) : (k.perform p c).Later k := by
  cases c with
  | wait child hang => exact later_waitFor k p child hang
  | kill pid n => exact later_sendSignal k p pid n
  | read n count => exact later_readBytes k p n count
  | write n bytes => exact later_writeBytes k p n bytes
  | «open» path mode =>
    dsimp only [perform]
    split
    · exact Later.refl k
    · next h => exact Later.trans (later_openPath h) (Later.of_eq rfl rfl)
  | _ =>
    dsimp only [perform]
    repeat' split
    all_goals exact Later.of_eq rfl rfl

theorem later_of_done {c : Call} {reply : c.Reply} {p' : Process}
    (h : k.perform p c = .done reply k' p') : k.Later k' := by
  have hlater := later_perform k p c
  rwa [h] at hlater

theorem later_of_blocked {c : Call} {p' : Process}
    (h : k.perform p c = .blocked k' p') : k.Later k' := by
  have hlater := later_perform k p c
  rwa [h] at hlater

/-! ## Running -/

theorem later_suspend (k : Kernel) (p : Process) (program : Program) :
    k.Later (k.suspend p program) := .of_eq rfl rfl

theorem later_advance (calls : Nat) (moved : Bool) (k : Kernel) (p : Process)
    (program : Program) : k.Later (k.advance load calls moved p program).kernel := by
  fun_induction advance load calls moved k p program with
  | case1 => exact later_suspend _ _ _
  | case2 _ _ k p status => exact later_bury k (p.finish (.status status))
  | case3 _ _ k _ _ _ _ ih | case4 _ _ k _ _ _ _ ih => exact (Later.refl k).tick.trans ih
  | case5 _ _ _ _ _ _ _ ih =>
    refine Later.trans ?_ ih
    exact .of_eq rfl rfl
  | case6 _ _ _ _ _ _ _ _ _ _ ih | case7 _ _ _ _ _ _ _ _ _ _ _ ih => exact ih
  | case8 _ _ _ _ _ _ _ _ _ _ _ hblocked =>
    exact (later_of_blocked hblocked).trans (later_suspend _ _ _)
  | case9 _ _ _ _ _ _ _ _ _ _ _ _ hdone =>
    exact (later_of_done hdone).tick.trans (later_bury _ _)
  | case10 _ _ _ _ _ _ _ _ _ _ _ _ hdone =>
    exact (later_of_done hdone).tick.trans (later_suspend _ _ _)
  | case11 _ _ _ _ _ _ _ _ _ _ _ _ hdone _ _ _ _ _ ih
  | case12 _ _ _ _ _ _ _ _ _ _ _ _ hdone _ _ _ _ _ ih =>
    exact (later_of_done hdone).tick.trans ih

theorem later_turn (progress : Progress) (pid : Nat) :
    progress.kernel.Later (turn load progress pid).kernel := by
  unfold turn
  dsimp only
  split
  · exact .refl _
  · split
    · exact .refl _
    · split
      · exact .refl _
      · refine Later.trans ?_ (later_advance _ _ _ _ _)
        exact .of_eq rfl rfl

theorem later_round (load : Loader) (k : Kernel) : k.Later (k.round load).kernel := by
  have hturns (pids : List Nat) (progress : Progress) :
      progress.kernel.Later (pids.foldl (turn load) progress).kernel := by
    induction pids generalizing progress with
    | nil => exact .refl _
    | cons pid rest ih => exact (later_turn progress pid).trans (ih _)
  exact hturns _ ⟨k, false⟩

theorem later_runUntil {test : Kernel → Bool}
    (h : k.runUntil load test limit rounds = some k') : k.Later k' := by
  fun_induction runUntil load test limit rounds k with
  | case1 | case3 | case7 => cases h
  | case2 => cases h; exact .refl _
  | case4 _ k _ _ _ _ _ ih => exact (later_round load k).trans (ih h)
  | case5 _ k => exact Option.some.inj h ▸ later_round load k
  | case6 _ k _ _ _ _ _ _ wake _ ih =>
    exact ((later_round load k).wait (Nat.le_max_left _ wake)).trans (ih h)

/-- Whether the first process has ended, and before the limit. -/
def inTime (n : Nat) (k : Kernel) : Bool := k.result.any (·.2 < n)

/-- An end that is not there when the time is up is not in time. -/
theorem not_inTime_of_later (h : k.Later k') (hresult : k.result = none) (hclock : n ≤ k.clock) :
    k'.inTime n = false := by
  rcases h.result with hsame | ⟨e, t, hnew, ht⟩
  · simp [inTime, hsame, hresult]
  · simp only [inTime, hnew, Option.any_some, decide_eq_false_iff_not, Nat.not_lt]
    exact Nat.le_trans hclock ht

/-- With a limit, whatever comes in time comes as it does without one. -/
theorem runUntil_limited (load : Loader) (n rounds : Nat) (k : Kernel) :
    (k.runUntil load (·.result.isSome) (some n) rounds).filter (inTime n) =
      (k.runUntil load (·.result.isSome) none rounds).filter (inTime n) := by
  induction rounds generalizing k with
  | zero => rfl
  | succ rounds ih =>
    by_cases hended : k.result.isSome
    · simp only [runUntil, hended, if_true]
    · have hresult : k.result = none := by simpa using hended
      by_cases hclock : n ≤ k.clock
      · -- The run that is given up could only have ended too late.
        have hnone : k.runUntil load (·.result.isSome) (some n) (rounds + 1) = none := by
          simp [runUntil, hresult, hclock]
        rw [hnone, Option.filter_none, eq_comm, Option.filter_eq_none_iff]
        intro k' hk'
        simp [not_inTime_of_later (later_runUntil hk') hresult hclock]
      · simp only [runUntil, hended, hclock, Option.any_some, Option.any_none, decide_false,
          if_false, Bool.false_eq_true]
        split
        · exact ih _
        · split
          · rfl
          · split
            · exact ih _
            · rfl

end Kernel

namespace Process

theorem conclude_limited (s : Setting) (k : Kernel) (n : Nat) :
    conclude s (some n) k = (conclude s none k).filter fun f => f.elapsed < n := by
  cases hresult : k.result with
  | none => simp [conclude, hresult]
  | some ended =>
    obtain ⟨exit, elapsed⟩ := ended
    cases hdrain : k.runUntil Programs.load (!isHeard ·) none roundLimit with
    | none => simp [conclude, hresult, hdrain]
    | some k' =>
      by_cases hin : elapsed < n
      · simp [conclude, hresult, hdrain, hin, Option.filter_some, Nat.not_le.2 hin]
      · simp [conclude, hresult, hdrain, hin, Option.filter_some, Nat.not_lt.1 hin]

theorem bind_conclude_limited (s : Setting) (n : Nat) (run : Option Kernel) :
    run.bind (conclude s (some n)) = (run.filter (Kernel.inTime n)).bind (conclude s none) := by
  cases run with
  | none => rfl
  | some k =>
    cases hresult : k.result with
    | none => simp [conclude, Kernel.inTime, hresult, Option.filter_some]
    | some ended =>
      by_cases hin : ended.2 < n
      · simp [conclude, Kernel.inTime, hresult, hin, Option.filter_some, Nat.not_le.2 hin]
      · simp [conclude, Kernel.inTime, hresult, hin, Option.filter_some, Nat.not_lt.1 hin]

/-- A limit leaves out what takes it or longer, and nothing else. -/
theorem runKernel_limited (s : Setting) (k : Kernel) (n : Nat) :
    runKernel s k (some n) = (runKernel s k none).filter fun f => f.elapsed < n := by
  unfold runKernel
  calc (k.runUntil Programs.load (·.result.isSome) (some n) roundLimit).bind
        (conclude s (some n))
      = (k.runUntil Programs.load (·.result.isSome) none roundLimit).bind
        (conclude s (some n)) := by
        rw [bind_conclude_limited, bind_conclude_limited, Kernel.runUntil_limited]
    _ = _ := by
        cases k.runUntil Programs.load (·.result.isSome) none roundLimit with
        | none => rfl
        | some k => exact conclude_limited s k n

end Process

/-- The system is one that can be relied on. -/
theorem system_lawful : system.Lawful where
  nul s job limit h := by simp [system, h]
  limited s job n := by
    cases hjob : job.hasNul with
    | true => simp [system, hjob, Except.map]
    | false =>
      simp only [system, hjob, Bool.false_eq_true, if_false]
      cases Process.start s job with
      | error failure => rfl
      | ok k => simp only [Except.map, Process.runKernel_limited]

end BuildAtlas.Posix
