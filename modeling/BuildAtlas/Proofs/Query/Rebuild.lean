import BuildAtlas.Proofs.Query.Outcome
import BuildAtlas.Session.Script
import BuildAtlas.Workspace.Lookup

/-! # When an index has to be built anew

Settings that ask for no rebuild of each other give the build tool the same command lines. A
tool that goes by the line alone then replies alike, and what comes of it is the same index, or
faults of one kind: the marker has its say in the message of a query that failed, and nowhere
else. The name of the build files is no part of an index, but of the paths told from it.
-/
namespace BuildAtlas

namespace Settings
variable {a b c : Settings}

theorem requiresRebuild_eq_false_iff : a.requiresRebuild b = false ↔
    a.executable = b.executable ∧ a.targetQuery = b.targetQuery ∧
      a.sourceQuery = b.sourceQuery := by
  simp [requiresRebuild, and_assoc]

theorem requiresRebuild_self (a : Settings) : a.requiresRebuild a = false :=
  requiresRebuild_eq_false_iff.mpr ⟨rfl, rfl, rfl⟩

/-- Settings that ask for no rebuild of each other can stand for each other. -/
theorem requiresRebuild_congr (h : b.requiresRebuild c = false) :
    a.requiresRebuild b = a.requiresRebuild c := by
  obtain ⟨hexecutable, htargets, hsources⟩ := requiresRebuild_eq_false_iff.mp h
  rw [requiresRebuild, requiresRebuild, hexecutable, htargets, hsources]

end Settings

/-- A tool that keeps the command lines it was given, oldest first. -/
def Tool.recorded {σ : Type} (tool : Tool σ) : Tool (σ × List String) where
  run c st := ((tool.run c st.1).1, (tool.run c st.1).2, st.2 ++ [c.line])

/-- A tool whose reply is up to the line of a command and to nothing else. -/
def Tool.ByLine {σ : Type} (tool : Tool σ) : Prop :=
  ∀ c c' st st', c.line = c'.line → (tool.run c st).1 = (tool.run c' st').1

namespace Query
variable {σ α β : Type} {tool : Tool σ} {a b : Settings}

/-- The same value, or the same fault but for the line that the markers find in the output of a
query that failed. -/
inductive Agree (a b : Settings) : Except Fault α → Except Fault α → Prop
  | ok (v : α) : Agree a b (.ok v) (.ok v)
  | fault (f : Fault) : Agree a b (.error f) (.error f)
  | query (o : Output) : o.succeeded = false →
      Agree a b (.error (.query (Output.errorLine a.errorMarker o.stderrLines)))
        (.error (.query (Output.errorLine b.errorMarker o.stderrLines)))

namespace Agree

theorem map {x y : Except Fault α} (h : Agree a b x y) (f : α → β) :
    Agree a b (x.map f) (y.map f) := by
  cases h with
  | ok v => exact .ok (f v)
  | fault fault => exact .fault fault
  | query o ho => exact .query o ho

theorem bind {x y : Except Fault α} {f g : α → Except Fault β} (h : Agree a b x y)
    (hfg : ∀ v, Agree a b (f v) (g v)) : Agree a b (x.bind f) (y.bind g) := by
  cases h with
  | ok v => exact hfg v
  | fault fault => exact .fault fault
  | query o ho => exact .query o ho

theorem isOk_eq {x y : Except Fault α} (h : Agree a b x y) : x.isOk = y.isOk := by
  cases h <;> rfl

end Agree

theorem agree_outcome (a b : Settings) (reply : Except Fault Output) :
    Agree a b (outcome a reply) (outcome b reply) := by
  cases reply with
  | error fault => exact .fault fault
  | ok o =>
    cases ho : o.succeeded with
    | true => simpa [outcome, Except.bind, accept, ho] using .ok o
    | false => simpa [outcome, Except.bind, accept, ho] using .query o ho

/-! ## Command lines -/

theorem line_targetCommand (shell : Shell) (h : a.requiresRebuild b = false) :
    (targetCommand shell a).line = (targetCommand shell b).line := by
  obtain ⟨hexecutable, htargets, _⟩ := Settings.requiresRebuild_eq_false_iff.mp h
  simp only [targetCommand, Command.line, hexecutable, htargets]

theorem line_sourceCommand (shell : Shell) (h : a.requiresRebuild b = false) :
    (sourceCommand shell a).line = (sourceCommand shell b).line := by
  obtain ⟨hexecutable, _, hsources⟩ := Settings.requiresRebuild_eq_false_iff.mp h
  simp only [sourceCommand, Command.line, hexecutable, hsources]

/-- The second query is made when the first one has ended well. -/
theorem recorded_lines (tool : Tool σ) (shell : Shell) (s : Settings) (st : σ)
    (heard : List String) : (index tool.recorded shell s (st, heard)).tool.2 =
      heard ++ (targetCommand shell s).line ::
        if (outcome s (tool.run (targetCommand shell s) st).1).isOk then
          [(sourceCommand shell s).line] else [] := by
  rw [index_tool]
  by_cases hok : (outcome s (tool.run (targetCommand shell s) st).1).isOk
  · simp [Tool.recorded, hok]
  · simp [Tool.recorded, hok]

theorem agree_outputs (shell : Shell) (htool : tool.ByLine) (h : a.requiresRebuild b = false)
    (st st' : σ) : Agree a b (outputs tool shell a st) (outputs tool shell b st') := by
  have hfirst : ∀ st st', (tool.run (targetCommand shell a) st).1 =
      (tool.run (targetCommand shell b) st').1 :=
    fun st st' => htool _ _ st st' (line_targetCommand shell h)
  have hsecond : ∀ st st', (tool.run (sourceCommand shell a) st).1 =
      (tool.run (sourceCommand shell b) st').1 :=
    fun st st' => htool _ _ st st' (line_sourceCommand shell h)
  simp only [outputs]
  rw [hfirst st st']
  refine (agree_outcome a b _).bind fun out => ?_
  rw [hsecond _ (tool.run (targetCommand shell b) st').2]
  exact (agree_outcome a b _).map fun src => (out, src)

/-! ## One index for both -/

/-- Building anew gives the build tool the same command lines and comes to the same index, or to
a fault of the same kind. A file is looked up alike in both, and the path of its build file
differs in the name alone. -/
structure Interchangeable (tool : Tool σ) (shell : Shell) (a b : Settings) (st st' : σ) :
    Prop where
  lines : (index tool.recorded shell a (st, [])).tool.2 =
    (index tool.recorded shell b (st', [])).tool.2
  results : Agree a b (index tool shell a st).result (index tool shell b st').result
  lookups : ∀ i i', (index tool shell a st).result = .ok i →
    (index tool shell b st').result = .ok i' → ∀ f, i.workspace.holds f = i'.workspace.holds f ∧
      ∃ owner : Except Fault PackagePath,
        i.workspace.buildFileOf a.buildFileName f =
          owner.map (fun p => PackagePath.joined (p ++ [a.buildFileName])) ∧
        i'.workspace.buildFileOf b.buildFileName f =
          owner.map (fun p => PackagePath.joined (p ++ [b.buildFileName]))

theorem index_unchanged_without_rebuild (shell : Shell) (htool : tool.ByLine)
    (h : a.requiresRebuild b = false) (st st' : σ) : Interchangeable tool shell a b st st' := by
  have hresults : Agree a b (index tool shell a st).result (index tool shell b st').result := by
    rw [index_result, index_result]
    exact (agree_outputs shell htool h st st').map indexOf
  refine ⟨?_, hresults, ?_⟩
  · have hreply := htool _ _ st st' (line_targetCommand shell h)
    have hok := (agree_outcome a b (tool.run (targetCommand shell b) st').1).isOk_eq
    rw [recorded_lines, recorded_lines, hreply, hok, line_targetCommand shell h,
      line_sourceCommand shell h]
  · intro i i' hi hi' f
    rw [hi, hi'] at hresults
    cases hresults
    refine ⟨rfl, if i.workspace.holds f then .ok f.owner else .error (.notIndexed f.render), ?_⟩
    by_cases hf : i.workspace.holds f
    · simp [Workspace.buildFileOf, hf, Except.map, PackagePath.joined]
    · simp [Workspace.buildFileOf, hf, Except.map]

/-- A tool that prints one item for either query and exits with a code. -/
def printing (exitCode : Int) : Tool Unit where
  run c _ :=
    (.ok ⟨if Script.asksForKinds c.line then "lib //a:x" else "//a:f", "note\nFATAL: gone",
      exitCode⟩, ())

def relabelled : Settings := { errorMarker := "FATAL", buildFileName := "B", queryTimeoutMs := 9 }

theorem index_unchanged_without_rebuild_relabelled :
    (printing 0).ByLine ∧ (printing 7).ByLine ∧ Settings.requiresRebuild {} relabelled = false ∧
      Interchangeable (printing 0) .posix {} relabelled () () ∧
      Interchangeable (printing 7) .posix {} relabelled () () := by
  have htool : ∀ exitCode, (printing exitCode).ByLine := by
    intro exitCode c c' st st' hline
    simp only [printing, hline]
  have h : Settings.requiresRebuild {} relabelled = false := by decide
  exact ⟨htool 0, htool 7, h, index_unchanged_without_rebuild .posix (htool 0) h () (),
    index_unchanged_without_rebuild .posix (htool 7) h () ()⟩

end Query

end BuildAtlas
