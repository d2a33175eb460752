import BuildAtlas.Dispatch

/-! # Deadlines

What comes of a command under a deadline comes of it as well under a later one or under none; all
that a deadline can do is to cut a command off. The same holds for the index that is built of two
such commands.
-/
namespace BuildAtlas

namespace Dispatcher
variable {σ : Type} {sys : System σ} {d : Dispatcher} {line : String} {st : σ}
  {limit limit' : Duration} {deadline deadline' : Option Duration}

/-! ## Looks -/

theorem pollInterval_dvd_lastLook (limit : Duration) : pollInterval ∣ lastLook limit :=
  Nat.dvd_mul_left _ _

theorem le_lastLook (limit : Duration) : limit.nanoseconds ≤ lastLook limit := by
  unfold lastLook pollInterval
  omega

theorem lastLook_lt (limit : Duration) :
    lastLook limit < limit.nanoseconds + pollInterval := by
  unfold lastLook pollInterval
  omega

theorem lastLook_mono (h : limit.nanoseconds ≤ limit'.nanoseconds) :
    lastLook limit ≤ lastLook limit' :=
  Nat.mul_le_mul_right _ (Nat.div_le_div_right (by omega))

/-! ## One command -/

/-- No deadline is the latest one. -/
def NoLater : Option Duration → Option Duration → Prop
  | _, none => True
  | none, some _ => False
  | some limit, some limit' => limit.nanoseconds ≤ limit'.nanoseconds

def inTime (deadline : Option Duration) (f : Finished σ) : Bool :=
  deadline.all (f.elapsed < lastLook ·)

theorem inTime_some (limit : Duration) :
    inTime (some limit) = fun f : Finished σ => decide (f.elapsed < lastLook limit) :=
  funext fun _ => Option.all_some

theorem NoLater.inTime (h : NoLater deadline deadline') {f : Finished σ}
    (hf : inTime deadline f) : inTime deadline' f := by
  cases deadline' with
  | none => rfl
  | some limit' =>
    cases deadline with
    | none => exact h.elim
    | some limit =>
      simp only [inTime_some, decide_eq_true_iff] at hf ⊢
      exact Nat.lt_of_lt_of_le hf (lastLook_mono h)

/-- A program is the same under every deadline: in time or not. -/
theorem run_deadline (hsys : sys.Lawful) (job : Job) (deadline : Option Duration) (st : σ) :
    sys.run st job (deadline.map lastLook) =
      (sys.run st job none).map fun ended => ended.filter (inTime deadline) := by
  cases deadline with
  | some limit =>
    simp only [Option.map_some, hsys.limited st job (lastLook limit), inTime_some]
  | none =>
    simp only [Option.map_none]
    cases sys.run st job none with
    | error cause => rfl
    | ok ended => cases ended <;> rfl

/-- All that an earlier deadline can do is to cut a command off. -/
theorem execute_or_timedOut (hsys : sys.Lawful) (h : NoLater deadline deadline') :
    d.execute sys line deadline st = d.execute sys line deadline' st ∨
      ∃ limit, deadline = some limit ∧
        d.execute sys line deadline st = (.error (.dispatch line (.timedOut limit)), st) := by
  simp only [execute, run_deadline hsys]
  cases sys.run st (d.job line) none with
  | error cause => exact Or.inl rfl
  | ok ended =>
    cases hended : ended.filter (inTime deadline) with
    | some f =>
      obtain ⟨rfl, hin⟩ := Option.filter_eq_some_iff.1 hended
      simp [Except.map, Option.filter_some, hin, h.inTime hin]
    | none =>
      cases deadline with
      | some limit => exact Or.inr ⟨limit, rfl, by simp only [Except.map, hended]⟩
      | none =>
        cases deadline' with
        | some limit' => exact h.elim
        | none => exact Or.inl rfl

/-- A command that fails to run leaves the system as it was, and the fault names it. -/
theorem execute_error {fault : Fault} (h : (d.execute sys line deadline st).1 = .error fault) :
    (∃ cause, fault = .dispatch line cause) ∧ (d.execute sys line deadline st).2 = st := by
  unfold execute at h ⊢
  cases hrun : sys.run st (d.job line) (deadline.map lastLook) with
  | error cause =>
    simp only [hrun, Except.error.injEq] at h
    exact ⟨⟨cause, h.symm⟩, rfl⟩
  | ok ended =>
    cases ended with
    | some f => simp [hrun] at h
    | none =>
      cases deadline with
      | some limit =>
        simp only [hrun, Except.error.injEq] at h
        exact ⟨⟨_, h.symm⟩, rfl⟩
      | none =>
        simp only [hrun, Except.error.injEq] at h
        exact ⟨⟨_, h.symm⟩, rfl⟩

/-- A shell or a directory with a NUL in its name comes to nothing; a command line may have one. -/
theorem execute_nul (hsys : sys.Lawful) (h : (d.job "").hasNul) :
    d.execute sys line deadline st = (.error (.dispatch line .nulByte), st) := by
  have hrun : sys.run st (d.job line) (deadline.map lastLook) = .error .nulByte :=
    hsys.nul st (d.job line) _ h
  simp only [execute, hrun]

/-- A program that was ended by a signal has not succeeded. -/
theorem toOutput_succeeded_iff {f : Finished σ} :
    (toOutput f).succeeded ↔ f.exit = .status 0 := by
  cases hexit : f.exit with
  | status n => simp [toOutput, Output.succeeded, exitCode, hexit]
  | signal n => simp [toOutput, Output.succeeded, exitCode, hexit]

end Dispatcher

/-! ## The index -/

namespace Query
open Dispatcher
variable {σ α : Type} {sys : System σ} {d : Dispatcher} {c : Command} {t : Option Duration}

/-- Whether a deadline is what stands in the way of a result. -/
def TimedOut (deadline : Option Duration) (result : Except Fault α) : Prop :=
  ∃ line limit, deadline = some limit ∧ result = .error (.dispatch line (.timedOut limit))

theorem ask_or_timedOut (hsys : sys.Lawful)
    (h : NoLater (c.timeout.or d.timeout) (t.or d.timeout)) (s : Settings) (n : Nat) (st : σ) :
    ask (d.tool sys) { s with queryTimeoutMs := n } { c with timeout := t } st =
        ask (d.tool sys) s c st ∨
      TimedOut (c.timeout.or d.timeout) (ask (d.tool sys) s c st).result := by
  rcases execute_or_timedOut hsys h with hsame | hcut
  · left
    have hrun : (d.tool sys).run { c with timeout := t } st = (d.tool sys).run c st := hsame.symm
    simp only [ask, hrun]
    rfl
  · obtain ⟨limit, hlimit, hcut⟩ := hcut
    have hrun : (d.tool sys).run c st = (.error (.dispatch c.line (.timedOut limit)), st) := hcut
    exact Or.inr ⟨c.line, limit, hlimit, by simp only [ask, hrun]⟩

theorem list_or_timedOut (hsys : sys.Lawful)
    (h : NoLater (c.timeout.or d.timeout) (t.or d.timeout)) (opening what : String)
    (read : Output → Listing α) (s : Settings) (n : Nat) (st : σ) :
    list (d.tool sys) { s with queryTimeoutMs := n } { c with timeout := t } opening what read st =
        list (d.tool sys) s c opening what read st ∨
      TimedOut (c.timeout.or d.timeout) (list (d.tool sys) s c opening what read st).result := by
  rcases ask_or_timedOut hsys h s n st with hsame | ⟨line, limit, hlimit, hcut⟩
  · exact Or.inl (by simp only [list, hsame])
  · exact Or.inr ⟨line, limit, hlimit, by simp only [list, hcut]⟩

/-- With a later deadline for its queries the index is the same one, unless a query was cut off
at the earlier deadline. -/
theorem index_or_timedOut (hsys : sys.Lawful) (shell : Shell) (s : Settings) (n : Nat) (st : σ)
    (h : NoLater (s.queryTimeout.or d.timeout)
      ({ s with queryTimeoutMs := n }.queryTimeout.or d.timeout)) :
    index (d.tool sys) shell { s with queryTimeoutMs := n } st = index (d.tool sys) shell s st ∨
      TimedOut (s.queryTimeout.or d.timeout) (index (d.tool sys) shell s st).result := by
  have htargets :
      targets (d.tool sys) shell { s with queryTimeoutMs := n } st =
          targets (d.tool sys) shell s st ∨
        TimedOut (s.queryTimeout.or d.timeout) (targets (d.tool sys) shell s st).result :=
    list_or_timedOut (c := targetCommand shell s) hsys h _ _ Listing.targets s n st
  have hsources (st : σ) :
      sources (d.tool sys) shell { s with queryTimeoutMs := n } st =
          sources (d.tool sys) shell s st ∨
        TimedOut (s.queryTimeout.or d.timeout) (sources (d.tool sys) shell s st).result :=
    list_or_timedOut (c := sourceCommand shell s) hsys h _ _ Listing.sources s n st
  rcases htargets with hsame | ⟨line, limit, hlimit, hcut⟩
  · cases hlisted : (targets (d.tool sys) shell s st).result with
    | error fault => exact Or.inl (by simp only [index, hsame, hlisted])
    | ok listed =>
      rcases hsources (targets (d.tool sys) shell s st).tool with
        hmore | ⟨line, limit, hlimit, hcut⟩
      · exact Or.inl (by simp only [index, hsame, hlisted, hmore])
      · exact Or.inr ⟨line, limit, hlimit, by simp only [index, hlisted, hcut, Except.map]⟩
  · exact Or.inr ⟨line, limit, hlimit, by simp only [index, hcut]⟩

/-- An index that was built is built under every later deadline as well. -/
theorem index_of_noLater (hsys : sys.Lawful) {shell : Shell} {s : Settings} {n : Nat} {st : σ}
    {built : Index} (hbuilt : (index (d.tool sys) shell s st).result = .ok built)
    (h : NoLater (s.queryTimeout.or d.timeout)
      ({ s with queryTimeoutMs := n }.queryTimeout.or d.timeout)) :
    index (d.tool sys) shell { s with queryTimeoutMs := n } st =
      index (d.tool sys) shell s st := by
  rcases index_or_timedOut hsys shell s n st h with hsame | ⟨line, limit, -, hcut⟩
  · exact hsame
  · rw [hbuilt] at hcut
    cases hcut

end Query

end BuildAtlas
