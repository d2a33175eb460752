import BuildAtlas.Proofs.Session.Interleaving
import Mathlib.Data.List.Nodup

/-! # Refreshes are serialised

However the steps of callers, new settings and readers are interleaved, what the build tool
hears falls into blocks, one for each caller that took the gate and in the order in which they
took it. A block is given with one version of the settings, which its caller reads behind the
gate and before the first command. The generation counts the trees that came into use, and no
reader ever gets a part of one.
-/
namespace BuildAtlas.Session

/-- The time of one caller past the gate: the settings it read there, once it has, and what the
tool heard. -/
structure Round (ι : Type) where
  caller : ι
  settings : Option Settings
  heard : List (Heard ι)

namespace Round
variable {ι : Type} {shell : Shell} {r : Round ι}

/-- The queries of a round are over: the first one alone when it failed, otherwise both, and
what came of them. -/
inductive Ended (shell : Shell) (r : Round ι) : Except Fault Index → Prop
  | refused {s reply fault} : r.settings = some s →
      r.heard = [⟨r.caller, Query.targetCommand shell s, reply⟩] →
      Query.outcome s reply = .error fault → Ended shell r (.error fault)
  | asked {s first second out} : r.settings = some s →
      r.heard = [⟨r.caller, Query.targetCommand shell s, first⟩,
        ⟨r.caller, Query.sourceCommand shell s, second⟩] →
      Query.outcome s first = .ok out →
      Ended shell r ((Query.outcome s second).map fun src =>
        Index.ofListings (Listing.targets out) (Listing.sources src))

/-- How far a round has come agrees with what was read and what the tool heard in it. -/
inductive Fits (shell : Shell) (r : Round ι) : Stage → Prop
  | admitted : r.settings = none → r.heard = [] → Fits shell r .admitted
  | started {s} : r.settings = some s → r.heard = [] → Fits shell r (.started s)
  | listed {s reply out} : r.settings = some s →
      r.heard = [⟨r.caller, Query.targetCommand shell s, reply⟩] →
      Query.outcome s reply = .ok out → Fits shell r (.listed s (Listing.targets out))
  | asked {result} : Ended shell r result → Fits shell r (.asked result)
  | settled {result} : Ended shell r result → Fits shell r (.settled (result.map Index.stats))
  | returned {result} : Ended shell r result →
      Fits shell r (.returned (some (result.map Index.stats)))

/-- Both queries of the round ended well, and the tree is that of all they printed. -/
def Built (shell : Shell) (r : Round ι) (w : Workspace) : Prop :=
  ∃ s out src, out.succeeded ∧ src.succeeded ∧ r.settings = some s ∧
    r.heard = [⟨r.caller, Query.targetCommand shell s, .ok out⟩,
      ⟨r.caller, Query.sourceCommand shell s, .ok src⟩] ∧
    w = (Index.ofListings (Listing.targets out) (Listing.sources src)).workspace

def hear (r : Round ι) (said : List (Heard ι)) : Round ι := { r with heard := r.heard ++ said }

theorem Ended.built {index : Index} (h : r.Ended shell (.ok index)) :
    r.Built shell index.workspace := by
  generalize hresult : Except.ok index = result at h
  cases h with
  | refused => cases hresult
  | @asked s first second out hsettings hheard hfirst =>
    cases hsecond : Query.outcome s second with
    | error fault =>
      rw [hsecond] at hresult
      cases hresult
    | ok src =>
      rw [hsecond] at hresult
      obtain ⟨rfl, hout⟩ := Query.outcome_eq_ok_iff.mp hfirst
      obtain ⟨rfl, hsrc⟩ := Query.outcome_eq_ok_iff.mp hsecond
      cases hresult
      exact ⟨s, out, src, hout, hsrc, hsettings, hheard, rfl⟩

/-- A step of the caller, with what the tool hears in it. -/
theorem Fits.goes {reply : Except Fault Output} {stage stage' : Stage} {said : List (Heard ι)}
    (h : r.Fits shell stage) (hgoes : stage.Goes shell r.caller reply said stage') :
    (r.hear said).Fits shell stage' := by
  cases hgoes with
  | listed ho =>
    cases h with
    | started hsettings hheard => exact .listed hsettings (by simp [hear, hheard]) ho
  | refused ho =>
    cases h with
    | started hsettings hheard => exact .asked (.refused hsettings (by simp [hear, hheard]) ho)
  | asked =>
    cases h with
    | listed hsettings hheard ho =>
      exact .asked (.asked hsettings (by simp [hear, hheard]) ho)
  | settled =>
    cases h with
    | asked hended => exact .settled (by simpa [hear] using hended)
  | left =>
    cases h with
    | settled hended => exact .returned (by simpa [hear] using hended)

end Round

variable {ι : Type} [DecidableEq ι] {shell : Shell} {x x' : Shared ι} {i j : ι} {m : Move ι}

namespace Stage
variable {stage stage' : Stage} {said : List (Heard ι)} {reply : Except Fault Output}

theorem entered_of_inside (h : stage.inside) : stage.entered := by
  cases stage with
  | returned result => simp [inside] at h
  | _ => simpa [entered] using h

omit [DecidableEq ι] in
theorem Goes.inside (h : stage.Goes shell i reply said stage') : stage.inside := by
  cases h <;> rfl

omit [DecidableEq ι] in
theorem Goes.entered (h : stage.Goes shell i reply said stage') : stage'.entered := by
  cases h <;> rfl

omit [DecidableEq ι] in
/-- Past the swap, a caller says nothing more. -/
theorem Goes.silent (h : stage.Goes shell i reply said stage') (hs : stage.swapped) :
    said = [] ∧ stage'.swapped := by
  cases h with
  | settled => simp [swapped] at hs
  | @left result =>
    cases result with
    | ok stats => exact ⟨rfl, rfl⟩
    | error fault => simp [swapped] at hs
  | _ => simp [swapped] at hs

omit [DecidableEq ι] in
/-- Only the settling of an index is a swap. -/
theorem Goes.swaps (h : stage.Goes shell i reply said stage') :
    (∃ index, stage = .asked (.ok index) ∧ said = [] ∧ stage'.swapped) ∨
      (∀ index, stage ≠ .asked (.ok index)) ∧ stage'.swapped = stage.swapped := by
  cases h with
  | @settled result =>
    cases result with
    | ok index => exact Or.inl ⟨index, rfl, rfl, rfl⟩
    | error fault => exact Or.inr ⟨by simp, rfl⟩
  | @left result => exact Or.inr ⟨by simp, by cases result <;> rfl⟩
  | _ => exact Or.inr ⟨by simp, rfl⟩

omit [DecidableEq ι] in
theorem Goes.caller (h : stage.Goes shell i reply said stage') : ∀ e ∈ said, e.caller = i := by
  cases h <;> simp

end Stage

/-! ## Rounds -/

namespace Shared

/-- What the tool heard from a caller. -/
def heardOf (x : Shared ι) (i : ι) : List (Heard ι) := x.session.tool.filter (·.caller = i)

def round (x : Shared ι) (i : ι) : Round ι := ⟨i, x.settings i, x.heardOf i⟩

/-- One round for each caller that took the gate, in that order. -/
def rounds (x : Shared ι) : List (Round ι) := x.entries.map x.round

/-- The gate lets one caller in at a time, and what the tool heard is the rounds one after the
other. -/
structure Gated (shell : Shell) (x : Shared ι) : Prop where
  alone : ∀ i, x.gate = some i ↔ (x.stage i).inside
  entered : ∀ i, i ∈ x.entries ↔ (x.stage i).entered
  once : x.entries.Nodup
  /-- Who is past the gate was the last to take it. -/
  last : ∀ i, x.gate = some i → ∃ before, x.entries = before ++ [i]
  unread : ∀ i, (x.stage i).entered = false → x.settings i = none
  fits : ∀ r ∈ x.rounds, r.Fits shell (x.stage r.caller)
  log : x.session.tool = x.rounds.flatMap (·.heard)

/-- The tree is the empty one that was there at first, or the whole tree of a round that brought
it into use. -/
def Published (shell : Shell) (x : Shared ι) (w : Workspace) : Prop :=
  w = .empty ∨ ∃ r ∈ x.rounds, (x.stage r.caller).swapped ∧ r.Built shell w

def swaps (x : Shared ι) : Nat := x.rounds.countP fun r => (x.stage r.caller).swapped

/-- The generation counts the swaps, and nothing else than published trees is in use or has
been read. -/
structure Swapped (shell : Shell) (x : Shared ι) : Prop where
  generation : x.session.state.generation = x.swaps
  current : x.Published shell x.session.state.current.workspace
  readings : ∀ w ∈ x.readings, x.Published shell w

/-! ## The gate and the log -/

theorem caller_mem {r : Round ι} (hr : r ∈ x.rounds) : r.caller ∈ x.entries := by
  obtain ⟨i, hi, rfl⟩ := List.mem_map.mp hr
  exact hi

theorem round_congr (hsettings : x'.settings = x.settings)
    (htool : x'.session.tool = x.session.tool) : x'.round = x.round := by
  funext i
  simp [round, heardOf, hsettings, htool]

theorem rounds_congr (hentries : x'.entries = x.entries) (hsettings : x'.settings = x.settings)
    (htool : x'.session.tool = x.session.tool) : x'.rounds = x.rounds := by
  rw [rounds, rounds, hentries, round_congr hsettings htool]

theorem heardOf_append {said : List (Heard ι)} (htool : x'.session.tool = x.session.tool ++ said)
    (j : ι) : x'.heardOf j = x.heardOf j ++ said.filter (·.caller = j) := by
  rw [heardOf, htool, List.filter_append, heardOf]

namespace Gated

theorem congr (h : x.Gated shell) (hstage : x'.stage = x.stage) (hgate : x'.gate = x.gate)
    (hentries : x'.entries = x.entries) (hsettings : x'.settings = x.settings)
    (htool : x'.session.tool = x.session.tool) : x'.Gated shell where
  alone := by simpa [hgate, hstage] using h.alone
  entered := by simpa [hentries, hstage] using h.entered
  once := by simpa [hentries] using h.once
  last := by simpa [hgate, hentries] using h.last
  unread := by simpa [hstage, hsettings] using h.unread
  fits := by simpa [rounds_congr hentries hsettings htool, hstage] using h.fits
  log := by rw [rounds_congr hentries hsettings htool, htool, h.log]

theorem caller_ne (h : x.Gated shell) (hi : (x.stage i).entered = false) {r : Round ι}
    (hr : r ∈ x.rounds) : r.caller ≠ i := by
  rintro rfl
  have hentered := (h.entered r.caller).mp (caller_mem hr)
  rw [hi] at hentered
  cases hentered

theorem heardOf_eq_nil (h : x.Gated shell) (hi : (x.stage i).entered = false) :
    x.heardOf i = [] := by
  refine List.filter_eq_nil_iff.mpr fun e he => ?_
  rw [h.log, List.mem_flatMap] at he
  obtain ⟨r, hr, he⟩ := he
  have hcaller : e.caller = r.caller := by
    obtain ⟨j, _, rfl⟩ := List.mem_map.mp hr
    exact of_decide_eq_true (List.mem_filter.mp he).2
  rw [decide_eq_true_eq, hcaller]
  exact h.caller_ne hi hr

theorem rounds_enter (h : x.Gated shell) (hi : (x.stage i).entered = false) :
    (x.enter i).rounds = x.rounds ++ [⟨i, none, []⟩] := by
  have hround : (x.enter i).round = x.round := round_congr rfl rfl
  rw [rounds, entries_enter, List.map_append, hround]
  simp [rounds, round, h.heardOf_eq_nil hi, h.unread i hi]

theorem enter (h : x.Gated shell) (hgate : x.gate = none)
    (hi : (x.stage i).entered = false) : (x.enter i).Gated shell := by
  have hrounds := h.rounds_enter hi
  have houtside : ∀ j, (x.stage j).inside = false := fun j => by
    simpa [hgate] using h.alone j
  refine ⟨fun j => ?_, fun j => ?_, ?_, fun j hj => ?_, fun j hj => ?_, fun r hr => ?_, ?_⟩
  · rw [stage_enter, Function.update_apply]
    by_cases hj : j = i
    · simp [hj, Stage.inside]
    · simp [hj, Ne.symm hj, houtside]
  · rw [stage_enter, Function.update_apply]
    by_cases hj : j = i
    · simp [hj, Stage.entered, Stage.inside]
    · simpa [hj] using h.entered j
  · rw [entries_enter, List.nodup_append]
    refine ⟨h.once, by simp, fun j hj k hk => ?_⟩
    obtain rfl : k = i := by simpa using hk
    rintro rfl
    simp [h.entered, hi] at hj
  · obtain rfl : i = j := by simpa using hj
    exact ⟨_, rfl⟩
  · rw [stage_enter, Function.update_apply] at hj
    by_cases hji : j = i
    · simp [hji, Stage.entered, Stage.inside] at hj
    · exact h.unread j (by simpa [hji] using hj)
  · rw [hrounds, List.mem_append, List.mem_singleton] at hr
    rcases hr with hr | rfl
    · rw [stage_enter, Function.update_of_ne (h.caller_ne hi hr)]
      exact h.fits r hr
    · rw [stage_enter, Function.update_self]
      exact .admitted rfl rfl
  · rw [hrounds]
    simpa using h.log

/-- A call that was not let in gives up. -/
theorem skip (h : x.Gated shell) (hi : x.stage i = .trying) :
    (x.put i (.returned none)).Gated shell where
  alone j := by
    rw [stage_put, Function.update_apply]
    by_cases hj : j = i
    · subst hj
      simpa [hi, Stage.inside] using h.alone j
    · simpa [hj] using h.alone j
  entered j := by
    rw [stage_put, Function.update_apply]
    by_cases hj : j = i
    · subst hj
      simpa [hi, Stage.entered, Stage.inside] using h.entered j
    · simpa [hj] using h.entered j
  once := h.once
  last := h.last
  unread j hj := by
    rw [stage_put, Function.update_apply] at hj
    by_cases hji : j = i
    · exact h.unread j (by rw [hji, hi]; rfl)
    · exact h.unread j (by simpa [hji] using hj)
  fits r hr := by
    have hr' : r ∈ x.rounds := hr
    rw [stage_put, Function.update_of_ne (h.caller_ne (by rw [hi]; rfl) hr')]
    exact h.fits r hr'
  log := h.log

/-- The last round is that of the caller past the gate; no other is of the same caller. -/
theorem split (h : x.Gated shell) (hi : x.gate = some i) (hentries : x'.entries = x.entries)
    (hround : ∀ j, j ≠ i → x'.round j = x.round j) :
    ∃ done, x.rounds = done ++ [x.round i] ∧ x'.rounds = done ++ [x'.round i] ∧
      ∀ d ∈ done, d.caller ≠ i := by
  obtain ⟨before, hbefore⟩ := h.last i hi
  have hother : ∀ j ∈ before, j ≠ i := fun j hj => by
    have honce := h.once
    rw [hbefore, List.nodup_append] at honce
    exact honce.2.2 j hj i (by simp)
  refine ⟨before.map x.round, by simp [rounds, hbefore], ?_, fun d hd => ?_⟩
  · have hsame : before.map x'.round = before.map x.round :=
      List.map_congr_left fun j hj => hround j (hother j hj)
    simp [rounds, hentries, hbefore, hsame]
  · obtain ⟨j, hj, rfl⟩ := List.mem_map.mp hd
    exact hother j hj

variable {reply : Except Fault Output} {stage' : Stage} {said : List (Heard ι)}

/-- A step of the caller past the gate that fits its round. -/
theorem turn (h : x.Gated shell) (hi : x.gate = some i) (hentered : stage'.entered)
    (hstage : x'.stage = Function.update x.stage i stage')
    (hgate : x'.gate = if stage'.inside then x.gate else none)
    (hentries : x'.entries = x.entries) (hround : ∀ j, j ≠ i → x'.round j = x.round j)
    (htool : x'.session.tool = x.session.tool ++ said)
    (hheard : (x'.round i).heard = (x.round i).heard ++ said)
    (hfits : (x'.round i).Fits shell stage') : x'.Gated shell := by
  obtain ⟨done, hrounds, hrounds', hother⟩ := h.split hi hentries hround
  refine ⟨fun j => ?_, fun j => ?_, by rw [hentries]; exact h.once, fun j hj => ?_,
    fun j hj => ?_, fun d hd => ?_, ?_⟩
  · rw [hstage, Function.update_apply]
    by_cases hj : j = i
    · cases hin : stage'.inside <;> simp [hgate, hj, hi, hin]
    · have houtside : (x.stage j).inside = false := by
        simpa [hi, Ne.symm hj] using h.alone j
      cases hin : stage'.inside <;> simp [hgate, hj, Ne.symm hj, hi, hin, houtside]
  · rw [hstage, hentries, h.entered, Function.update_apply]
    by_cases hj : j = i
    · simp [hj, hentered, Stage.entered_of_inside ((h.alone i).mp hi)]
    · simp [hj]
  · rw [hentries]
    cases hin : stage'.inside with
    | false => simp [hgate, hin] at hj
    | true => exact h.last j (by simpa [hgate, hin] using hj)
  · rw [hstage, Function.update_apply] at hj
    by_cases hji : j = i
    · simp [hji, hentered] at hj
    · have hsettings : x'.settings j = x.settings j := congrArg Round.settings (hround j hji)
      rw [hsettings]
      exact h.unread j (by simpa [hji] using hj)
  · rw [hrounds', List.mem_append, List.mem_singleton] at hd
    rcases hd with hd | rfl
    · rw [hstage, Function.update_of_ne (hother d hd)]
      exact h.fits d (by simp [hrounds, hd])
    · rw [hstage]
      simpa [round] using hfits
  · rw [htool, h.log, hrounds, hrounds']
    simp [hheard]

theorem gate_of_admitted (h : x.Gated shell) (hi : x.stage i = .admitted) : x.gate = some i :=
  (h.alone i).mpr (by rw [hi]; rfl)

theorem mem_round (h : x.Gated shell) (hi : x.gate = some i) : x.round i ∈ x.rounds := by
  obtain ⟨done, hrounds, -, -⟩ := h.split hi rfl fun _ _ => rfl
  simp [hrounds]

/-- Before it has read the settings, a caller has given no command. -/
theorem heardOf_of_admitted (h : x.Gated shell) (hi : x.stage i = .admitted) :
    x.settings i = none ∧ x.heardOf i = [] := by
  have hfits := h.fits _ (h.mem_round (h.gate_of_admitted hi))
  have hcaller : x.stage (x.round i).caller = .admitted := hi
  rw [hcaller] at hfits
  cases hfits with
  | admitted hsettings hheard => exact ⟨hsettings, hheard⟩

theorem round_prepare : (x.prepare i).round i =
    ⟨i, some x.session.state.settings, x.heardOf i⟩ := by
  simp [round, settings_prepare, heardOf]

theorem round_prepare_of_ne (hj : j ≠ i) : (x.prepare i).round j = x.round j := by
  simp [round, settings_prepare, heardOf, hj]

theorem prepare (h : x.Gated shell) (hi : x.stage i = .admitted) :
    (x.prepare i).Gated shell := by
  have hheard : (x.prepare i).heardOf i = [] := (h.heardOf_of_admitted hi).2
  refine h.turn (h.gate_of_admitted hi) rfl rfl rfl rfl (fun j hj => round_prepare_of_ne hj)
    (List.append_nil _).symm ?_ ?_
  · exact (List.append_nil _).symm
  · rw [round_prepare]
    exact .started rfl hheard

/-- What the tool hears from the caller past the gate goes to its round. -/
theorem round_hear (hsettings : x'.settings = x.settings)
    (htool : x'.session.tool = x.session.tool ++ said) (hsaid : ∀ e ∈ said, e.caller = i) :
    x'.round i = (x.round i).hear said ∧ ∀ j, j ≠ i → x'.round j = x.round j := by
  have hall : said.filter (·.caller = i) = said := List.filter_eq_self.mpr
    fun e he => by simpa using hsaid e he
  refine ⟨by simp [round, Round.hear, hsettings, heardOf_append htool, hall], fun j hj => ?_⟩
  have hnone : said.filter (·.caller = j) = [] := List.filter_eq_nil_iff.mpr
    fun e he => by simpa [hsaid e he] using hj.symm
  simp [round, hsettings, heardOf_append htool, hnone]

theorem work (h : x.Gated shell) (hgoes : (x.stage i).Goes shell i reply said stage')
    (hstage : x'.stage = Function.update x.stage i stage')
    (hgate : x'.gate = if stage'.inside then x.gate else none)
    (hentries : x'.entries = x.entries) (hsettings : x'.settings = x.settings)
    (htool : x'.session.tool = x.session.tool ++ said) : x'.Gated shell := by
  have hi : x.gate = some i := (h.alone i).mpr hgoes.inside
  obtain ⟨hself, hother⟩ := round_hear hsettings htool hgoes.caller
  have hfits : (x.round i).Fits shell (x.stage i) := h.fits _ (h.mem_round hi)
  refine h.turn hi hgoes.entered hstage hgate hentries hother htool ?_ ?_
  · rw [hself]
    rfl
  · rw [hself]
    exact hfits.goes hgoes

theorem move (h : x.Gated shell) (hmove : x.Moved shell m x') : x'.Gated shell := by
  cases hmove with
  | idle => exact h
  | entering hgate hstage =>
    refine h.enter hgate ?_
    rcases hstage with hstage | hstage <;> rw [hstage] <;> rfl
  | skipping _ hstage => exact h.skip hstage
  | preparing hstage => exact h.prepare hstage
  | working hgoes hstage hgate hentries hsettings _ htool =>
    exact h.work hgoes hstage hgate hentries hsettings htool
  | updating => exact h.congr rfl rfl rfl rfl rfl
  | reading => exact h.congr rfl rfl rfl rfl rfl

end Gated

/-! ## The trees -/

theorem Published.mono {w : Workspace} (h : x.Published shell w)
    (hkeep : ∀ r ∈ x.rounds, (x.stage r.caller).swapped →
      r ∈ x'.rounds ∧ (x'.stage r.caller).swapped) : x'.Published shell w := by
  rcases h with rfl | ⟨r, hr, hswapped, hbuilt⟩
  · exact Or.inl rfl
  · obtain ⟨hr', hswapped'⟩ := hkeep r hr hswapped
    exact Or.inr ⟨r, hr', hswapped', hbuilt⟩

theorem swaps_append {before after : List (Round ι)} (h : x.rounds = before ++ after) :
    x.swaps = (before.countP fun r => (x.stage r.caller).swapped) +
      after.countP fun r => (x.stage r.caller).swapped := by
  rw [swaps, h, List.countP_append]

section turn
variable {stage' : Stage}

/-- A step of the caller past the gate swaps or not; the other rounds count as they did. -/
theorem Gated.swaps_turn (h : x.Gated shell) (hi : x.gate = some i)
    (hstage : x'.stage = Function.update x.stage i stage') (hentries : x'.entries = x.entries)
    (hround : ∀ j, j ≠ i → x'.round j = x.round j) :
    x'.swaps + (x.stage i).swapped.toNat = x.swaps + stage'.swapped.toNat := by
  obtain ⟨done, hrounds, hrounds', hother⟩ := h.split hi hentries hround
  have hsame : (done.countP fun r => (x'.stage r.caller).swapped) =
      done.countP fun r => (x.stage r.caller).swapped :=
    List.countP_congr fun d hd => by rw [hstage, Function.update_of_ne (hother d hd)]
  have hcount : ∀ b : Bool, (if b then 1 else 0) = b.toNat := by decide
  rw [swaps_append hrounds, swaps_append hrounds', hsame, List.countP_singleton,
    List.countP_singleton, hcount, hcount, hstage]
  simp only [round, Function.update_self]
  omega

theorem Gated.keeps_turn (h : x.Gated shell) (hi : x.gate = some i)
    (hstage : x'.stage = Function.update x.stage i stage') (hentries : x'.entries = x.entries)
    (hround : ∀ j, j ≠ i → x'.round j = x.round j)
    (hself : (x.stage i).swapped → x'.round i = x.round i ∧ stage'.swapped) :
    ∀ r ∈ x.rounds, (x.stage r.caller).swapped →
      r ∈ x'.rounds ∧ (x'.stage r.caller).swapped := by
  obtain ⟨done, hrounds, hrounds', hother⟩ := h.split hi hentries hround
  intro r hr hs
  rw [hrounds, List.mem_append, List.mem_singleton] at hr
  rw [hrounds', hstage]
  rcases hr with hr | rfl
  · rw [Function.update_of_ne (hother r hr)]
    exact ⟨List.mem_append_left _ hr, hs⟩
  · obtain ⟨hround', hs'⟩ := hself hs
    exact ⟨by simp [hround'], by simpa [round] using hs'⟩

end turn

namespace Swapped

/-- A move that leaves the state and the readings alone, and the rounds that swapped. -/
theorem frame (h : x.Swapped shell) (hcurrent : x'.session.state.current = x.session.state.current)
    (hreadings : x'.readings = x.readings) (hswaps : x'.swaps = x.swaps)
    (hkeep : ∀ r ∈ x.rounds, (x.stage r.caller).swapped →
      r ∈ x'.rounds ∧ (x'.stage r.caller).swapped) : x'.Swapped shell where
  generation := by rw [State.generation, hcurrent, hswaps, ← h.generation, State.generation]
  current := by
    rw [hcurrent]
    exact h.current.mono hkeep
  readings w hw := (h.readings w (hreadings ▸ hw)).mono hkeep

/-- More rounds may have begun, none of which has swapped. -/
theorem extend {new : List (Round ι)} (h : x.Swapped shell)
    (hcurrent : x'.session.state.current = x.session.state.current)
    (hreadings : x'.readings = x.readings) (hrounds : x'.rounds = x.rounds ++ new)
    (hsame : ∀ r ∈ x.rounds, x'.stage r.caller = x.stage r.caller)
    (hnew : ∀ r ∈ new, (x'.stage r.caller).swapped = false) : x'.Swapped shell := by
  refine h.frame hcurrent hreadings ?_ fun r hr hs => ?_
  · have hold : (x.rounds.countP fun r => (x'.stage r.caller).swapped) = x.swaps :=
      List.countP_congr fun r hr => by rw [hsame r hr]
    have hnone : (new.countP fun r => (x'.stage r.caller).swapped) = 0 :=
      List.countP_eq_zero.mpr fun r hr => by rw [hnew r hr]; exact Bool.false_ne_true
    rw [swaps_append hrounds, hold, hnone, Nat.add_zero]
  · rw [hrounds, hsame r hr]
    exact ⟨List.mem_append_left _ hr, hs⟩

theorem enter (h : x.Swapped shell) (hg : x.Gated shell) (hi : (x.stage i).entered = false) :
    (x.enter i).Swapped shell := by
  refine h.extend rfl rfl (hg.rounds_enter hi) (fun r hr => ?_) fun r hr => ?_
  · rw [stage_enter, Function.update_of_ne (hg.caller_ne hi hr)]
  · obtain rfl := List.mem_singleton.mp hr
    rw [stage_enter, Function.update_self]
    rfl

theorem skip (h : x.Swapped shell) (hg : x.Gated shell) (hi : x.stage i = .trying) :
    (x.put i (.returned none)).Swapped shell := by
  have hrounds : (x.put i (.returned none)).rounds = x.rounds ++ [] := by
    rw [List.append_nil]
    exact rounds_congr rfl rfl rfl
  refine h.extend rfl rfl hrounds (fun r hr => ?_) nofun
  rw [stage_put, Function.update_of_ne (hg.caller_ne (by rw [hi]; rfl) hr)]

theorem prepare (h : x.Swapped shell) (hg : x.Gated shell) (hi : x.stage i = .admitted) :
    (x.prepare i).Swapped shell := by
  have hgate := hg.gate_of_admitted hi
  have hround : ∀ j, j ≠ i → (x.prepare i).round j = x.round j :=
    fun j hj => Gated.round_prepare_of_ne hj
  have hbefore : (x.stage i).swapped = false := by rw [hi]; rfl
  have hswaps := hg.swaps_turn hgate (stage_prepare x i) rfl hround
  rw [hbefore] at hswaps
  refine h.frame rfl rfl hswaps (hg.keeps_turn hgate rfl rfl hround fun hs => ?_)
  rw [hbefore] at hs
  cases hs

variable {reply : Except Fault Output} {stage' : Stage} {said : List (Heard ι)}

theorem work (h : x.Swapped shell) (hg : x.Gated shell)
    (hgoes : (x.stage i).Goes shell i reply said stage')
    (hstage : x'.stage = Function.update x.stage i stage')
    (hentries : x'.entries = x.entries) (hsettings : x'.settings = x.settings)
    (hreadings : x'.readings = x.readings) (htool : x'.session.tool = x.session.tool ++ said)
    (hcurrent : x'.session.state.current = (match x.stage i with
      | .asked (.ok index) => ⟨index.workspace, x.session.state.generation + 1⟩
      | _ => x.session.state.current)) : x'.Swapped shell := by
  have hi : x.gate = some i := (hg.alone i).mpr hgoes.inside
  obtain ⟨hself, hother⟩ := Gated.round_hear hsettings htool hgoes.caller
  have hkeep := hg.keeps_turn hi hstage hentries hother fun hs => by
    obtain ⟨rfl, hs'⟩ := hgoes.silent hs
    exact ⟨by simpa [Round.hear] using hself, hs'⟩
  have hswaps := hg.swaps_turn hi hstage hentries hother
  rcases hgoes.swaps with ⟨index, hasked, rfl, hs'⟩ | ⟨hasked, hs'⟩
  · have hbuilt : (x.round i).Built shell index.workspace := by
      have hfits : (x.round i).Fits shell (x.stage i) := hg.fits _ (hg.mem_round hi)
      rw [hasked] at hfits
      cases hfits with
      | asked hended => exact hended.built
    have hmem : x.round i ∈ x'.rounds := by
      obtain ⟨done, -, hrounds', -⟩ := hg.split hi hentries hother
      simp [hrounds', hself, Round.hear]
    have hbefore : (x.stage i).swapped = false := by rw [hasked]; rfl
    rw [hasked] at hcurrent
    refine ⟨?_, ?_, fun w hw => (h.readings w (hreadings ▸ hw)).mono hkeep⟩
    · rw [State.generation, hcurrent, h.generation]
      simpa [hs', hbefore] using hswaps.symm
    · rw [hcurrent]
      exact Or.inr ⟨x.round i, hmem, by simpa [round, hstage] using hs', hbuilt⟩
  · refine h.frame ?_ hreadings (by simpa [hs'] using hswaps) hkeep
    rw [hcurrent]
    split
    · exact absurd ‹_› (hasked _)
    · rfl

theorem move (h : x.Swapped shell) (hg : x.Gated shell) (hmove : x.Moved shell m x') :
    x'.Swapped shell := by
  cases hmove with
  | idle => exact h
  | entering _ hstage =>
    refine h.enter hg ?_
    rcases hstage with hstage | hstage <;> rw [hstage] <;> rfl
  | skipping _ hstage => exact h.skip hg hstage
  | preparing hstage => exact h.prepare hg hstage
  | working hgoes hstage _ hentries hsettings hreadings htool _ hcurrent =>
    exact h.work hg hgoes hstage hentries hsettings hreadings htool hcurrent
  | updating => exact h.frame rfl rfl rfl fun r hr hs => ⟨hr, hs⟩
  | reading =>
    refine ⟨h.generation, h.current.mono fun r hr hs => ⟨hr, hs⟩, fun w hw => ?_⟩
    have hread : x.Published shell w := by
      rcases List.mem_append.mp hw with hw | hw
      · exact h.readings w hw
      · exact List.mem_singleton.mp hw ▸ h.current
    exact hread.mono fun r hr hs => ⟨hr, hs⟩

end Swapped

/-! ## All of it -/

/-- What a move does at the gate and to the settings. -/
structure Admits (x : Shared ι) (m : Move ι) (x' : Shared ι) : Prop where
  /-- Either no one takes the gate, or it was open. -/
  taking : (x'.entries = x.entries ∧ ∀ i, x'.gate = some i → x.gate = some i) ∨
    ∃ i, x.gate = none ∧ x'.gate = some i ∧ x'.entries = x.entries ++ [i] ∧
      x'.settings i = none
  /-- What settings a caller has read stays; it reads those of the moment, past the gate and
  before it gives a command. -/
  preparing : ∀ i, x'.settings i = x.settings i ∨ x.gate = some i ∧ x.settings i = none ∧
    x.heardOf i = [] ∧ x'.settings i = some x.session.state.settings
  /-- Settings come into force when they are installed, whoever is past the gate. -/
  installing : x'.session.state.settings =
    match m with
    | .update settings => settings
    | _ => x.session.state.settings
  /-- Who gives up found the gate closed, and the tool hears nothing of it. -/
  skipping : ∀ i, x.stage i ≠ .returned none → x'.stage i = .returned none →
    x.gate ≠ none ∧ x'.session = x.session

theorem Moved.admits (h : x.Moved shell m x') (hg : x.Gated shell) : x.Admits m x' := by
  cases h with
  | idle => exact ⟨Or.inl ⟨rfl, fun _ hj => hj⟩, fun _ => Or.inl rfl, rfl,
      fun j hj hj' => absurd hj' hj⟩
  | @entering i reply hgate hstage =>
    have hunread : x.settings i = none := by
      refine hg.unread i ?_
      rcases hstage with hstage | hstage <;> rw [hstage] <;> rfl
    refine ⟨Or.inr ⟨i, hgate, rfl, rfl, hunread⟩, fun _ => Or.inl rfl, rfl, fun j hj hj' => ?_⟩
    rw [stage_enter, Function.update_apply] at hj'
    split at hj'
    · cases hj'
    · exact absurd hj' hj
  | skipping hgate _ => exact ⟨Or.inl ⟨rfl, fun _ hj => hj⟩, fun _ => Or.inl rfl, rfl,
      fun _ _ _ => ⟨hgate, rfl⟩⟩
  | @preparing i reply hstage =>
    refine ⟨Or.inl ⟨rfl, fun _ hj => hj⟩, fun j => ?_, rfl, fun j hj hj' => ?_⟩
    · rw [settings_prepare, Function.update_apply]
      split
      · next heq =>
        obtain ⟨hsettings, hheard⟩ := hg.heardOf_of_admitted hstage
        exact Or.inr (heq ▸ ⟨hg.gate_of_admitted hstage, hsettings, hheard, rfl⟩)
      · exact Or.inl rfl
    · rw [stage_prepare, Function.update_apply] at hj'
      split at hj'
      · cases hj'
      · exact absurd hj' hj
  | @working i _ said stage' _ hgoes hstage hgate hentries hsettings _ _ hinstalled _ =>
    refine ⟨Or.inl ⟨hentries, fun j hj => ?_⟩, fun j => Or.inl (congrFun hsettings j), hinstalled,
      fun j hj hj' => ?_⟩
    · cases hin : stage'.inside with
      | false => simp [hgate, hin] at hj
      | true => simpa [hgate, hin] using hj
    · rw [hstage, Function.update_apply] at hj'
      split at hj'
      · have hentered := hgoes.entered
        rw [hj'] at hentered
        cases hentered
      · exact absurd hj' hj
  | updating => exact ⟨Or.inl ⟨rfl, fun _ hj => hj⟩, fun _ => Or.inl rfl, rfl,
      fun j hj hj' => absurd hj' hj⟩
  | reading => exact ⟨Or.inl ⟨rfl, fun _ hj => hj⟩, fun _ => Or.inl rfl, rfl,
      fun j hj hj' => absurd hj' hj⟩

/-- Only a call that tries gives up. -/
def GivesUp (tries : ι → Bool) (x : Shared ι) : Prop :=
  ∀ i, x.stage i = .trying ∨ x.stage i = .returned none → tries i

theorem GivesUp.move {tries : ι → Bool} (h : x.GivesUp tries) (hmove : x.Moved shell m x') :
    x'.GivesUp tries := by
  intro j hj
  cases hmove with
  | idle => exact h j hj
  | entering =>
    rw [stage_enter, Function.update_apply] at hj
    split at hj
    · simp at hj
    · exact h j hj
  | skipping _ htrying =>
    rw [stage_put, Function.update_apply] at hj
    split at hj
    · next heq => exact h j (Or.inl (heq ▸ htrying))
    · exact h j hj
  | preparing =>
    rw [stage_prepare, Function.update_apply] at hj
    split at hj
    · simp at hj
    · exact h j hj
  | working hgoes hstage =>
    rw [hstage, Function.update_apply] at hj
    split at hj
    · have hentered := hgoes.entered
      rcases hj with hj | hj <;> (rw [hj] at hentered; cases hentered)
    · exact h j hj
  | updating => exact h j hj
  | reading => exact h j hj

/-- The refreshes of a shared session are one after the other. -/
structure Serialised (shell : Shell) (tries : ι → Bool) (x : Shared ι) : Prop where
  exclusive : ∀ i j, (x.stage i).inside → (x.stage j).inside → i = j
  gated : x.Gated shell
  /-- The queries of all callers are over but of the one past the gate. -/
  ended : ∀ r ∈ x.rounds, (x.stage r.caller).inside = false →
    ∃ result, r.Ended shell result ∧ x.stage r.caller = .returned (some (result.map Index.stats))
  swapped : x.Swapped shell
  silent : ∀ i, x.stage i = .returned none → tries i ∧ x.heardOf i = []
  admits : ∀ m, x.Admits m (step shell x m)

theorem Gated.ended (h : x.Gated shell) {r : Round ι} (hr : r ∈ x.rounds)
    (hout : (x.stage r.caller).inside = false) : ∃ result, r.Ended shell result ∧
      x.stage r.caller = .returned (some (result.map Index.stats)) := by
  have hfits := h.fits r hr
  generalize x.stage r.caller = stage at hfits hout ⊢
  cases hfits with
  | @returned result hended => exact ⟨result, hended, rfl⟩
  | _ => simp [Stage.inside] at hout

end Shared

omit [DecidableEq ι] in
theorem Stage.entered_start (settings : Settings) (tries : ι → Bool) (i : ι) :
    ((start settings tries).stage i).entered = false := by
  simp only [start]
  split <;> rfl

theorem gated_start (settings : Settings) (tries : ι → Bool) :
    (start settings tries).Gated shell where
  alone i := by
    have hinside : ((start settings tries).stage i).inside = false := by
      cases hin : ((start settings tries).stage i).inside with
      | false => rfl
      | true =>
        have hentered := Stage.entered_of_inside hin
        rw [Stage.entered_start] at hentered
        cases hentered
    rw [hinside]
    exact iff_of_false nofun nofun
  entered i := by
    rw [Stage.entered_start]
    exact iff_of_false nofun nofun
  once := List.nodup_nil
  last := nofun
  unread _ _ := rfl
  fits := nofun
  log := rfl

theorem swapped_start (settings : Settings) (tries : ι → Bool) :
    (start settings tries).Swapped shell where
  generation := rfl
  current := Or.inl rfl
  readings := nofun

omit [DecidableEq ι] in
theorem givesUp_start (settings : Settings) (tries : ι → Bool) :
    (start settings tries).GivesUp tries := by
  rintro i (hi | hi) <;> simp only [start] at hi <;> split at hi
  · assumption
  · cases hi
  · cases hi
  · cases hi

/-- Whatever callers do and however their steps are ordered, with whatever replies of the tool,
their refreshes are one after the other. -/
theorem refreshes_serialised (shell : Shell) (settings : Settings) (tries : ι → Bool)
    (moves : List (Move ι)) : (run shell (start settings tries) moves).Serialised shell tries := by
  -- a swap is a swap of the last round, so the trees are kept only along with the gate
  obtain ⟨hg, hs⟩ := run_keeps (P := fun x => x.Gated shell ∧ x.Swapped shell) shell
    (fun _ _ _ hmove h => ⟨h.1.move hmove, h.2.move h.1 hmove⟩)
    ⟨gated_start settings tries, swapped_start settings tries⟩ moves
  have ht := run_keeps (P := fun x => x.GivesUp tries) shell (fun _ _ _ hmove h => h.move hmove)
    (givesUp_start settings tries) moves
  refine ⟨fun i j hi hj => ?_, hg, fun r hr => hg.ended hr, hs, fun i hi => ⟨?_, ?_⟩,
    fun m => (Shared.moved_step shell _ m).admits hg⟩
  · rw [← hg.alone] at hi hj
    exact Option.some.inj (hi.symm.trans hj)
  · exact ht i (Or.inr hi)
  · exact hg.heardOf_eq_nil (by rw [hi]; rfl)

/-- Settings that are installed while a caller has the gate but not its settings are those of its
commands, here after another caller has found the gate closed. -/
theorem update_reaches_admitted :
    ¬ ∀ (tries : Bool → Bool) (moves later : List (Move Bool)) (i : Bool)
      (reply : Except Fault Output),
      let x := run .posix (start {} tries) moves
      x.gate = none → (step .posix x (.advance i reply)).gate = some i →
      ∀ e ∈ (run .posix x (.advance i reply :: later)).heardOf i,
        e.command = Query.targetCommand .posix x.session.state.settings ∨
          e.command = Query.sourceCommand .posix x.session.state.settings := by
  intro h
  let reply : Except Fault Output := .ok (.success "")
  let narrow : Settings := { targetQuery := "//narrow/..." }
  have hheard := h id [] [.advance true reply, .update narrow, .advance false reply,
    .advance false reply] false reply rfl rfl
    ⟨false, Query.targetCommand .posix narrow, reply⟩ (List.mem_singleton.mpr rfl)
  exact absurd hheard (by decide)

/-- New settings do not reach the refresh under way, but the one that waits for it. -/
example :
    ((run .posix (start {} fun _ : Bool => false)
      [.advance true (.ok (.success "")), .advance true (.ok (.success "")),
        .update { targetQuery := "//narrow/..." }, .advance false (.ok (.success "")),
        .advance true (.ok (.success "")), .advance true (.ok (.success "")),
        .advance true (.ok (.success "")), .advance true (.ok (.success "")),
        .advance false (.ok (.success "")), .advance false (.ok (.success "")),
        .advance false (.ok (.failure 1 ""))]).session.tool.map
      fun e => (e.caller, e.command.expression)) =
    [(true, "//..."), (true, "kind(\"source file\", //...:*)"), (false, "//narrow/...")] :=
  rfl

end BuildAtlas.Session
