import BuildAtlas.Query.Index
import BuildAtlas.Session.Refresh

/-! # Tools that are looked at

A tool may keep more than another one and reply all the same. Nothing that is asked of it comes
out differently then: a query, an index or a refresh through the one tool is what it is through
the other, as far as the other one can see.
-/
namespace BuildAtlas

/-- Seen through `f`, a tool runs as another one does. -/
def Tool.LooksLike {σ τ : Type} (tool : Tool σ) (f : σ → τ) (plain : Tool τ) : Prop :=
  ∀ c st, plain.run c (f st) = ((tool.run c st).1, f (tool.run c st).2)

/-- An exchange, with the tool as seen through `f`. -/
def Exchange.mapTool {σ τ α : Type} (f : σ → τ) (e : Exchange σ α) : Exchange τ α :=
  ⟨e.result, f e.tool, e.notes⟩

namespace Query
variable {σ τ α : Type} {tool : Tool σ} {plain : Tool τ} {f : σ → τ}

theorem ask_mapTool (h : tool.LooksLike f plain) (s : Settings) (c : Command) (st : σ) :
    (ask tool s c st).mapTool f = ask plain s c (f st) := by
  rw [ask, ask, h c st]
  rcases tool.run c st with ⟨reply, next⟩
  cases reply <;> rfl

theorem list_mapTool (h : tool.LooksLike f plain) (s : Settings) (c : Command)
    (opening what : String) (read : Output → Listing α) (st : σ) :
    (list tool s c opening what read st).mapTool f = list plain s c opening what read (f st) := by
  rw [list, list, ← ask_mapTool h]
  rcases ask tool s c st with ⟨result, next, notes⟩
  cases result <;> rfl

theorem targets_mapTool (h : tool.LooksLike f plain) (shell : Shell) (s : Settings) (st : σ) :
    (targets tool shell s st).mapTool f = targets plain shell s (f st) := list_mapTool h ..

theorem sources_mapTool (h : tool.LooksLike f plain) (shell : Shell) (s : Settings) (st : σ) :
    (sources tool shell s st).mapTool f = sources plain shell s (f st) := list_mapTool h ..

theorem index_mapTool (h : tool.LooksLike f plain) (shell : Shell) (s : Settings) (st : σ) :
    (index tool shell s st).mapTool f = index plain shell s (f st) := by
  rw [index, index, ← targets_mapTool h]
  rcases targets tool shell s st with ⟨result, next, notes⟩
  cases result with
  | error fault => rfl
  | ok listed =>
    have hmore := sources_mapTool h shell s next
    exact congrArg (fun more : Exchange τ (Listing SourceFile) => Exchange.mk
      (more.result.map (Index.ofListings listed)) more.tool (notes ++ more.notes)) hmore

end Query

namespace Session
variable {σ τ : Type} {tool : Tool σ} {plain : Tool τ} {f : σ → τ}

def mapTool (f : σ → τ) (x : Session σ) : Session τ := ⟨x.state, f x.tool, x.notes⟩

theorem refresh_mapTool (h : tool.LooksLike f plain) (shell : Shell) (x : Session σ) :
    (x.mapTool f).refresh plain shell =
      ((x.refresh tool shell).1, (x.refresh tool shell).2.mapTool f) := by
  simp only [refresh, mapTool, ← Query.index_mapTool h, Exchange.mapTool]
  rcases Query.index tool shell x.state.settings x.tool with ⟨result, next, notes⟩
  cases result <;> rfl

end Session

end BuildAtlas
