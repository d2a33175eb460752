import BuildAtlas.Proofs.Query.Rebuild
import BuildAtlas.Proofs.Session.Calls

/-! # Which updates tell of a rebuild

An update compares the new settings with the ones that it replaces. These need not be the ones
that the tree in use was built with: an update that asks for a rebuild and is repeated before a
refresh succeeds asks for none the second time. What does hold is that the need of a rebuild was
told before. As long as no update since the tree was built has asked for one, the tree is the one
that the installed settings describe.
-/
namespace BuildAtlas.Session

section told
variable {σ : Type}

/-- The settings of the last refresh that succeeded. -/
def builtWith (past : List (Deed σ)) : Option Settings :=
  ((past.filter fun d => d.answer.succeeded).getLast?).map fun d => d.found.state.settings

/-- An update asked for a rebuild, and no refresh has succeeded since. -/
def Told (past : List (Deed σ)) : Prop :=
  ∃ before e since, past = before ++ e :: since ∧ e.answer = .rebuild true ∧
    ∀ d ∈ since, d.answer.succeeded = false

variable {past : List (Deed σ)} {d : Deed σ}

theorem builtWith_concat (past : List (Deed σ)) (d : Deed σ) : builtWith (past ++ [d]) =
    if d.answer.succeeded then some d.found.state.settings else builtWith past := by
  rw [builtWith, List.filter_append]
  cases hd : d.answer.succeeded with
  | true => simp [hd]
  | false => simp [hd, builtWith]

theorem Told.concat (h : Told past) (hd : d.answer.succeeded = false) : Told (past ++ [d]) := by
  obtain ⟨before, e, since, rfl, he, hsince⟩ := h
  refine ⟨before, e, since ++ [d], by simp, he, ?_⟩
  intro f hf
  rcases List.mem_append.mp hf with hf | hf
  · exact hsince f hf
  · rw [List.mem_singleton.mp hf]
    exact hd

theorem told_concat (hd : d.answer = .rebuild true) : Told (past ++ [d]) :=
  ⟨past, d, [], rfl, hd, by simp⟩

end told

section runs
variable {σ : Type} {tool : Tool σ} {shell : Shell} {settings built : Settings} {st : σ}
  {past : List (Deed σ)} {d : Deed σ} {s : State}

/-- The tree in use came of the settings it was built with, and if the installed settings ask for
another one, an update has told so. -/
structure Followed (tool : Tool σ) (shell : Shell) (past : List (Deed σ)) (s : State)
    (built : Settings) : Prop where
  tree : ∃ st o, Query.outputs tool shell built st = .ok o ∧
    s.current.workspace = (Query.indexOf o).workspace
  told : built.requiresRebuild s.settings = true → Told past

theorem Followed.next (h : ∀ built, builtWith past = some built →
      Followed tool shell past d.found.state built)
    (hd : d.Comes tool shell) (hcall : d.call.replaces = false)
    (hbuilt : builtWith (past ++ [d]) = some built) :
    Followed tool shell (past ++ [d]) d.left built := by
  rw [builtWith_concat] at hbuilt
  obtain ⟨found, call, event, answer, left⟩ := d
  change Comes tool shell found call event answer left at hd
  cases hd with
  | indexed _ ho =>
    obtain rfl : found.state.settings = built := Option.some.inj hbuilt
    refine ⟨⟨_, _, ho, rfl⟩, fun hneeded => ?_⟩
    rw [Settings.requiresRebuild_self] at hneeded
    cases hneeded
  | replaced => cases hcall
  | installed =>
    obtain ⟨htree, htold⟩ := h built hbuilt
    refine ⟨htree, fun hneeded => ?_⟩
    rename_i new
    cases hanswer : found.state.settings.requiresRebuild new with
    | true => exact told_concat rfl
    | false =>
      -- the new settings stand for the old ones, which asked for a rebuild already
      rw [← Settings.requiresRebuild_congr hanswer] at hneeded
      exact (htold hneeded).concat rfl
  | failed _ _ | skipped | reported | taken =>
    obtain ⟨htree, htold⟩ := h built hbuilt
    exact ⟨htree, fun hneeded => (htold hneeded).concat rfl⟩

theorem followed_deeds (calls : List Call) (hcalls : ∀ call ∈ calls, call.replaces = false)
    (built : Settings)
    (hbuilt : builtWith (deeds tool shell (opened settings st) calls) = some built) :
    Followed tool shell (deeds tool shell (opened settings st) calls)
      (performAll tool shell (opened settings st) calls).state built := by
  induction calls using List.reverseRecOn generalizing built with
  | nil => cases hbuilt
  | append_singleton calls call ih =>
    have hpast := ih fun c hc => hcalls c (List.mem_append_left _ hc)
    rw [deeds_concat] at hbuilt ⊢
    rw [performAll_concat]
    exact Followed.next hpast (comes_deed _ call) (hcalls call (by simp)) hbuilt

/-- When an update answers that no rebuild is needed, the tree in use needs one just when it
needed one for the settings before, and then an update has told so since the tree was built. -/
theorem update_hides_only_told (tool : Tool σ) (shell : Shell) (settings : Settings) (st : σ)
    (calls : List Call) (hcalls : ∀ call ∈ calls, call.replaces = false)
    (hbuilt : builtWith (deeds tool shell (opened settings st) calls) = some built)
    (new : Settings)
    (hanswer : (perform tool shell (performAll tool shell (opened settings st) calls)
      (.update new)).1 = .rebuild false) :
    (∃ st' o, Query.outputs tool shell built st' = .ok o ∧
      (performAll tool shell (opened settings st) calls).state.current.workspace =
        (Query.indexOf o).workspace) ∧
    built.requiresRebuild new = built.requiresRebuild
      (performAll tool shell (opened settings st) calls).state.settings ∧
    (built.requiresRebuild new = true → Told (deeds tool shell (opened settings st) calls)) := by
  obtain ⟨htree, htold⟩ := followed_deeds calls hcalls built hbuilt
  have hinstalled :
      (performAll tool shell (opened settings st) calls).state.settings.requiresRebuild new = false :=
    Answer.rebuild.inj hanswer
  have hsame := Settings.requiresRebuild_congr (a := built) hinstalled
  exact ⟨htree, hsame.symm, fun hneeded => htold (hsame.trans hneeded)⟩

end runs

/-! ## The same update twice -/

/-- The replies for one refresh. -/
def onceOnly : Script :=
  { replies := [.output (.success "lib //a:x"), .output (.success "//a:f")] }

def narrowed : Settings := { targetQuery := "//a/..." }

theorem builtWith_narrowed : builtWith (deeds Script.tool .posix (opened {} onceOnly)
    [.refresh, .update narrowed]) = some {} := rfl

theorem update_hides_only_told_narrowed :
    builtWith (deeds Script.tool .posix (opened {} onceOnly) [.refresh, .update narrowed]) =
        some {} ∧
      (perform Script.tool .posix (performAll Script.tool .posix (opened {} onceOnly)
        [.refresh, .update narrowed]) (.update narrowed)).1 = .rebuild false ∧
      Settings.requiresRebuild {} narrowed = true ∧
      Told (deeds Script.tool .posix (opened {} onceOnly) [.refresh, .update narrowed]) := by
  have hcalls : ∀ call ∈ [Call.refresh, .update narrowed], call.replaces = false := by
    simp [Call.replaces]
  have hneeded : Settings.requiresRebuild {} narrowed = true := by decide
  obtain ⟨_, _, htold⟩ := update_hides_only_told Script.tool .posix {} onceOnly
    [.refresh, .update narrowed] hcalls builtWith_narrowed narrowed rfl
  exact ⟨builtWith_narrowed, rfl, hneeded, htold hneeded⟩

/-- A repeated update finds its own settings installed and asks for no rebuild, with a tree in
use that was built with others. -/
theorem repeated_update_hides_rebuild :
    ¬ ∀ (calls : List Call) (built new : Settings),
      (∀ call ∈ calls, call = .refresh ∨ ∃ s, call = .update s) →
      builtWith (deeds Script.tool .posix (opened {} onceOnly) calls) = some built →
      (perform Script.tool .posix (performAll Script.tool .posix (opened {} onceOnly) calls)
        (.update new)).1 = .rebuild false →
      built.requiresRebuild new = false := by
  intro h
  have hcalls : ∀ call ∈ [Call.refresh, .update narrowed], call = .refresh ∨
      ∃ s, call = .update s := by
    intro call hcall
    simp only [List.mem_cons, List.not_mem_nil, or_false] at hcall
    rcases hcall with rfl | rfl
    · exact Or.inl rfl
    · exact Or.inr ⟨narrowed, rfl⟩
  have hhidden := h [.refresh, .update narrowed] {} narrowed hcalls builtWith_narrowed rfl
  exact absurd hhidden (by decide)

end BuildAtlas.Session
