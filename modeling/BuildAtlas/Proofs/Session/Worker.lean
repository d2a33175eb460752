import BuildAtlas.Proofs.Session.Calls
import Mathlib.Logic.Function.Iterate

/-! # The periodic worker

A worker refreshes at the multiples of its interval that lie before the time at which it is stopped,
and at no other time. When it does so does not depend on what the build tool replies: a refresh that
fails leaves the tree and its generation behind, and the next one comes at its time and finds the
session as the last one left it. So the generation counts the refreshes for which both queries ended
well, and the tree in use is the one of the last of these.
-/
namespace BuildAtlas.Session

/-! ## One refresh after another -/

section refreshed
variable {σ : Type} (tool : Tool σ) (shell : Shell)

/-- The session after so many refreshes. -/
def refreshed (x : Session σ) (n : Nat) : Session σ :=
  Nat.iterate (fun y => (y.refresh tool shell).2) n x

/-- The outputs of both queries when so many refreshes have gone before, or the fault of the first
query that fails. -/
def gained (x : Session σ) (k : Nat) : Except Fault (Output × Output) :=
  Query.outputs tool shell x.state.settings (refreshed tool shell x k).tool

variable {tool shell} {x y : Session σ}

theorem refreshed_succ (x : Session σ) (n : Nat) : refreshed tool shell x (n + 1) =
    ((refreshed tool shell x n).refresh tool shell).2 :=
  Function.iterate_succ_apply' ..

theorem refreshed_refresh (x : Session σ) (n : Nat) :
    refreshed tool shell (x.refresh tool shell).2 n = refreshed tool shell x (n + 1) :=
  (Function.iterate_succ_apply ..).symm

/-- The notes taken before play no part in a refresh. -/
theorem refresh_congr (hs : x.state = y.state) (ht : x.tool = y.tool) :
    (x.refresh tool shell).1 = (y.refresh tool shell).1 ∧
      (x.refresh tool shell).2.state = (y.refresh tool shell).2.state ∧
      (x.refresh tool shell).2.tool = (y.refresh tool shell).2.tool := by
  obtain ⟨state, st, notes⟩ := x
  obtain ⟨state', st', notes'⟩ := y
  obtain rfl : state = state' := hs
  obtain rfl : st = st' := ht
  simp only [refresh]
  cases (Query.index tool shell state.settings st).result <;> exact ⟨rfl, rfl, rfl⟩

theorem refreshed_congr (hs : x.state = y.state) (ht : x.tool = y.tool) (n : Nat) :
    (refreshed tool shell x n).state = (refreshed tool shell y n).state ∧
      (refreshed tool shell x n).tool = (refreshed tool shell y n).tool := by
  induction n with
  | zero => exact ⟨hs, ht⟩
  | succ n ih =>
    rw [refreshed_succ, refreshed_succ]
    exact (refresh_congr ih.1 ih.2).2

theorem gained_congr (hs : x.state = y.state) (ht : x.tool = y.tool) (k : Nat) :
    gained tool shell x k = gained tool shell y k := by
  rw [gained, gained, hs, (refreshed_congr hs ht k).2]

theorem settings_refreshed (x : Session σ) (n : Nat) :
    (refreshed tool shell x n).state.settings = x.state.settings := by
  induction n with
  | zero => rfl
  | succ n ih =>
    rw [refreshed_succ, (refresh_eq _).2, ← ih]
    split <;> rfl

theorem refresh_refreshed (x : Session σ) (k : Nat) :
    ((refreshed tool shell x k).refresh tool shell).1 =
      (gained tool shell x k).map fun o => (Query.indexOf o).stats := by
  rw [(refresh_eq _).1, settings_refreshed, gained]

theorem state_refreshed_succ (x : Session σ) (k : Nat) :
    (refreshed tool shell x (k + 1)).state =
      match gained tool shell x k with
      | .ok o => (refreshed tool shell x k).state.replace (Query.indexOf o).workspace
          (Query.indexOf o).stats
      | .error fault => (refreshed tool shell x k).state.recordFailure fault := by
  rw [refreshed_succ, gained, ← settings_refreshed x k]
  exact (refresh_eq _).2

theorem generation_refreshed (x : Session σ) (n : Nat) :
    (refreshed tool shell x n).state.generation = x.state.generation +
      (List.range n).countP fun k => (gained tool shell x k).isOk := by
  induction n with
  | zero => rfl
  | succ n ih =>
    rw [List.range_succ, List.countP_append, List.countP_singleton]
    cases hgained : gained tool shell x n with
    | ok o =>
      have hone : (if (Except.ok o : Except Fault _).isOk = true then 1 else 0) = 1 := rfl
      rw [state_refreshed_succ, hgained, hone, ← Nat.add_assoc, ← ih]
      rfl
    | error fault =>
      have hnone : (if (Except.error fault : Except Fault (Output × Output)).isOk = true
          then 1 else 0) = 0 := rfl
      rw [state_refreshed_succ, hgained, hnone, Nat.add_zero, ← ih]
      rfl

/-- The tree of the last refresh for which both queries ended well, or the one there was. -/
theorem tree_refreshed (x : Session σ) (n : Nat) :
    (refreshed tool shell x n).state.current.workspace =
      (((List.range n).filterMap fun k => (gained tool shell x k).toOption).getLast?.map fun o =>
        (Query.indexOf o).workspace).getD x.state.current.workspace := by
  induction n with
  | zero => rfl
  | succ n ih =>
    rw [List.range_succ, getLast?_filterMap_concat]
    cases hgained : gained tool shell x n with
    | ok o =>
      rw [state_refreshed_succ, hgained]
      rfl
    | error fault =>
      rw [state_refreshed_succ, hgained]
      exact ih

end refreshed

/-! ## Rounds -/

section rounds
variable {σ : Type} {tool : Tool σ} {shell : Shell} {interval stop : Duration} {x : Session σ}

/-- From a time on, with the last of `n` ticks before the stop and the next one behind it. -/
theorem rounds_eq (hpos : 0 < interval.nanoseconds) (n now : Nat) (x : Session σ)
    (hlast : n = 0 ∨ now + n * interval.nanoseconds < stop.nanoseconds)
    (hnext : stop.nanoseconds ≤ now + (n + 1) * interval.nanoseconds) :
    x.rounds tool shell interval stop now =
      ((List.range n).map fun k => ⟨⟨now + (k + 1) * interval.nanoseconds⟩,
        some ((refreshed tool shell x k).refresh tool shell).1⟩, refreshed tool shell x n) := by
  induction n generalizing now x with
  | zero =>
    have hstopped : ¬(now < now + interval.nanoseconds ∧
        now + interval.nanoseconds < stop.nanoseconds) := by omega
    rw [rounds]
    simp only [if_neg hstopped]
    rfl
  | succ n ih =>
    have hmul : (n + 1) * interval.nanoseconds =
        n * interval.nanoseconds + interval.nanoseconds := Nat.succ_mul ..
    have hmul' : (n + 1 + 1) * interval.nanoseconds =
        (n + 1) * interval.nanoseconds + interval.nanoseconds := Nat.succ_mul ..
    have hwoken : now < now + interval.nanoseconds ∧
        now + interval.nanoseconds < stop.nanoseconds := by omega
    have hrest := ih (now + interval.nanoseconds) (x.refresh tool shell).2 (by omega) (by omega)
    rw [rounds]
    simp only [if_pos hwoken, tryRefresh, Bool.false_eq_true, if_false, hrest]
    rw [refreshed_refresh, List.range_succ_eq_map, List.map_cons, List.map_map]
    refine Prod.ext (List.cons_eq_cons.mpr ⟨?_, List.map_congr_left fun k _ => ?_⟩) rfl
    · rw [Nat.zero_add, Nat.one_mul]
      rfl
    · have htime : now + interval.nanoseconds + (k + 1) * interval.nanoseconds =
          now + (k + 1 + 1) * interval.nanoseconds := by
        rw [Nat.succ_mul (k + 1)]
        omega
      rw [Function.comp_apply, refreshed_refresh, htime]

end rounds

/-! ## A whole run -/

section periodic
variable {σ : Type} {tool : Tool σ} {shell : Shell} {interval stop : Duration} {x y : Session σ}
  {ticks : List Tick} {n : Nat}

/-- A run of the worker that left the session `y` behind, with its ticks in their order. -/
structure Worked (tool : Tool σ) (shell : Shell) (interval stop : Duration) (x : Session σ)
    (ticks : List Tick) (y : Session σ) : Prop where
  times : ticks.map Tick.time = (List.range (stop.nanoseconds / interval.nanoseconds)).map
    fun k => ⟨(k + 1) * interval.nanoseconds⟩
  inTime : ∀ tick ∈ ticks, tick.time.nanoseconds < stop.nanoseconds
  /-- Each tick refreshes the session as the ones before it left it, -/
  results : ticks.map Tick.result = (List.range ticks.length).map fun k =>
    some ((gained tool shell x k).map fun o => (Query.indexOf o).stats)
  /-- and behind the last one no command is given. -/
  left : y.tool = (refreshed tool shell x ticks.length).tool
  generation : y.state.generation = x.state.generation +
    (List.range ticks.length).countP fun k => (gained tool shell x k).isOk
  tree : y.state.current.workspace =
    (((List.range ticks.length).filterMap fun k =>
      (gained tool shell x k).toOption).getLast?.map fun o =>
        (Query.indexOf o).workspace).getD x.state.current.workspace

theorem worked_of_started {notes notes' : List Note} (hpos : 0 < interval.nanoseconds)
    (hlast : n * interval.nanoseconds < stop.nanoseconds)
    (hnext : stop.nanoseconds < (n + 1) * interval.nanoseconds)
    (hrounds : (x.note notes).rounds tool shell interval stop 0 = (ticks, y)) :
    Worked tool shell interval stop x ticks (y.note notes') := by
  have hn : stop.nanoseconds / interval.nanoseconds = n :=
    Nat.div_eq_of_lt_le (Nat.le_of_lt hlast) hnext
  have hall : (x.note notes).rounds tool shell interval stop 0 = _ :=
    rounds_eq hpos n 0 (x.note notes) (.inr (by omega)) (by omega)
  obtain ⟨hticks, hleft⟩ := Prod.mk.inj (hrounds.symm.trans hall)
  have hlength : ticks.length = n := by simp [hticks]
  have hsame : (x.note notes).state = x.state ∧ (x.note notes).tool = x.tool := ⟨rfl, rfl⟩
  have hgained : ∀ k, gained tool shell (x.note notes) k = gained tool shell x k :=
    fun k => gained_congr hsame.1 hsame.2 k
  have hstate : y.state = (refreshed tool shell x n).state :=
    hleft ▸ (refreshed_congr hsame.1 hsame.2 n).1
  constructor
  case times =>
    rw [hticks, hn, List.map_map]
    refine List.map_congr_left fun k _ => ?_
    rw [Function.comp_apply, Nat.zero_add]
  case inTime =>
    intro tick htick
    rw [hticks] at htick
    obtain ⟨k, hk, rfl⟩ := List.mem_map.mp htick
    have hle : (k + 1) * interval.nanoseconds ≤ n * interval.nanoseconds :=
      Nat.mul_le_mul_right _ (List.mem_range.mp hk)
    change 0 + (k + 1) * interval.nanoseconds < stop.nanoseconds
    omega
  case results =>
    rw [hlength, hticks, List.map_map]
    refine List.map_congr_left fun k _ => ?_
    rw [Function.comp_apply, refresh_refreshed, hgained]
  case left =>
    rw [hlength]
    exact hleft ▸ (refreshed_congr hsame.1 hsame.2 n).2
  case generation =>
    rw [hlength, ← generation_refreshed, ← hstate]
    rfl
  case tree =>
    rw [hlength, ← tree_refreshed, ← hstate]
    rfl

/-- A worker that is stopped between two multiples of its interval has refreshed at each multiple
before, whatever the build tool replied, and not once more. -/
theorem periodic_refreshes_at_multiples (tool : Tool σ) (shell : Shell) (x : Session σ)
    (hpos : 0 < interval.nanoseconds) (hstop : ¬interval.nanoseconds ∣ stop.nanoseconds) :
    Worked tool shell interval stop x (x.periodic tool shell interval stop).1
      (x.periodic tool shell interval stop).2 := by
  let n := stop.nanoseconds / interval.nanoseconds
  have hdivision : n * interval.nanoseconds + stop.nanoseconds % interval.nanoseconds =
      stop.nanoseconds := Nat.div_add_mod' ..
  have hrest : 0 < stop.nanoseconds % interval.nanoseconds :=
    Nat.pos_of_ne_zero fun h => hstop (Nat.dvd_of_mod_eq_zero h)
  have hless : stop.nanoseconds % interval.nanoseconds < interval.nanoseconds :=
    Nat.mod_lt _ hpos
  have hlast : n * interval.nanoseconds < stop.nanoseconds := by omega
  have hnext : stop.nanoseconds < (n + 1) * interval.nanoseconds := by
    rw [Nat.succ_mul]
    omega
  exact worked_of_started hpos hlast hnext rfl

/-- The first refresh of three fails at its only query, and the last one finds the replies used
up. -/
theorem periodic_between_two_failures :
    let x := opened {} { replies := [.output (.failure 2 "ERROR: no package"),
      .output (.success "cc_binary rule //a:x"), .output (.success "//a:x.cc")] }
    let run := x.periodic Script.tool .posix ⟨2⟩ ⟨7⟩
    run.1.map Tick.time = [⟨2⟩, ⟨4⟩, ⟨6⟩] ∧
      (run.1.map fun tick => tick.result.map Except.toOption) =
        [some none, some (some ⟨1, 1, 0, 2⟩), some none] ∧
      run.2.tool.received.length = 4 ∧ run.2.state.generation = 1 ∧
      run.2.state.current.workspace.packageCount = 2 := by
  intro x run
  have hworked : Worked Script.tool .posix ⟨2⟩ ⟨7⟩ x run.1 run.2 :=
    periodic_refreshes_at_multiples Script.tool .posix x (by decide) (by decide)
  have hlength : run.1.length = 3 := by simpa using congrArg List.length hworked.times
  refine ⟨hworked.times, ?_, ?_, ?_, ?_⟩
  · have hresults := congrArg (List.map (Option.map Except.toOption)) hworked.results
    rw [hlength, List.map_map] at hresults
    exact hresults.trans (by decide +kernel)
  · rw [hworked.left, hlength]
    decide +kernel
  · rw [hworked.generation, hlength]
    decide +kernel
  · rw [hworked.tree, hlength]
    decide +kernel

end periodic

end BuildAtlas.Session
