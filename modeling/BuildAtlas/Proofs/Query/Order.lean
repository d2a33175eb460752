import BuildAtlas.Proofs.Query.Grouping
import BuildAtlas.Proofs.Query.Outcome
import BuildAtlas.Proofs.Workspace.Shuffled

/-! # The order of the printed lines

An index is asked for what is in the workspace, and the build tool may print that in any order.
Two pairs of outputs with the same lines in different orders are counted alike and indexed as
trees that differ in nothing but their order.
-/
namespace BuildAtlas

namespace Listing
variable {α : Type} {a b : Listing α} {lines lines' : List String}

/-- Two listings of the same lines in different orders. -/
structure Shuffled (a b : Listing α) : Prop where
  items : a.items.Perm b.items
  skipped : a.skipped.Perm b.skipped

theorem read_shuffled (parse : String → Option α) (h : lines.Perm lines') :
    (read parse lines).Shuffled (read parse lines') where
  items := (h.filter _).filterMap parse
  skipped := (h.filter _).filter _

end Listing

namespace Index
variable {targets targets' : Listing Target} {files files' : Listing SourceFile}

theorem shuffled_ofListings (ht : targets.Shuffled targets') (hf : files.Shuffled files') :
    (ofListings targets files).workspace.Shuffled (ofListings targets' files').workspace := by
  have hitems : (Workspace.itemsOf targets.items files.items).Perm
      (Workspace.itemsOf targets'.items files'.items) :=
    (ht.items.map _).append (hf.items.map _)
  rw [ofListings, ofListings, Workspace.ofItems_eq, Workspace.ofItems_eq]
  exact Workspace.shuffled_insertAll hitems

theorem stats_ofListings_eq (ht : targets.Shuffled targets') (hf : files.Shuffled files') :
    (ofListings targets files).stats = (ofListings targets' files').stats := by
  have hpackages : (Workspace.ofItems targets.items files.items).packageCount =
      (Workspace.ofItems targets'.items files'.items).packageCount :=
    (shuffled_ofListings ht hf).packageCount_eq (Workspace.forest_ofItems _ _)
      (Workspace.forest_ofItems _ _)
  simp only [ofListings, ht.items.length_eq, hf.items.length_eq, ht.skipped.length_eq,
    hf.skipped.length_eq, hpackages]

end Index

namespace Query
variable {σ τ : Type} {tool : Tool σ} {tool' : Tool τ} {shell shell' : Shell} {s s' : Settings}
  {st : σ} {st' : τ} {out src out' src' : Output}

/-- Outputs with the same lines in different orders are indexed with the same counts, as trees
with the same packages, each with the same items, and every question is answered alike. -/
theorem index_permuted_lines (h : outputs tool shell s st = .ok (out, src))
    (h' : outputs tool' shell' s' st' = .ok (out', src'))
    (hout : out.stdoutLines.Perm out'.stdoutLines)
    (hsrc : src.stdoutLines.Perm src'.stdoutLines) :
    ∃ i i', (index tool shell s st).result = .ok i ∧
      (index tool' shell' s' st').result = .ok i' ∧
      i.stats = i'.stats ∧ i.workspace.paths.Perm i'.workspace.paths ∧
      (∀ path, Option.Rel Package.Shuffled (i.workspace.contentAt path)
        (i'.workspace.contentAt path)) ∧
      i.workspace.AnswersAlike i'.workspace := by
  have hi : (index tool shell s st).result = .ok (indexOf (out, src)) := by
    rw [index_result, h]
    rfl
  have hi' : (index tool' shell' s' st').result = .ok (indexOf (out', src')) := by
    rw [index_result, h']
    rfl
  have ht : (Listing.targets out).Shuffled (Listing.targets out') := Listing.read_shuffled _ hout
  have hf : (Listing.sources src).Shuffled (Listing.sources src') := Listing.read_shuffled _ hsrc
  have hstats : (indexOf (out, src)).stats = (indexOf (out', src')).stats :=
    Index.stats_ofListings_eq ht hf
  have hshuffled : (indexOf (out, src)).workspace.Shuffled (indexOf (out', src')).workspace :=
    Index.shuffled_ofListings ht hf
  have hforest : ∀ o, (indexOf o).workspace.Forest [] := fun o => Workspace.forest_ofItems _ _
  exact ⟨indexOf (out, src), indexOf (out', src'), hi, hi', hstats,
    hshuffled.paths_perm (hforest _) (hforest _), hshuffled.contentAt,
    hshuffled.answersAlike (hforest _) (hforest _)⟩

/-- A package is mentioned after the one below it, and before it with the lines swapped. -/
def pairOfTargets : Output := .success "lib //a/b:x\nbin //a:y\n"

def pairOfTargetsSwapped : Output := .success "bin //a:y\nlib //a/b:x"

def pairOfSources : Output := .success "//c:h\n//a:f"

def pairOfSourcesSwapped : Output := .success "//a:f\n//c:h"

theorem index_permuted_lines_swapped :
    pairOfTargets.stdoutLines.Perm pairOfTargetsSwapped.stdoutLines ∧
      pairOfSources.stdoutLines.Perm pairOfSourcesSwapped.stdoutLines ∧
      ∃ i i', (index Script.tool .posix {}
          { replies := [.output pairOfTargets, .output pairOfSources] }).result = .ok i ∧
        (index Script.tool .posix {} { replies :=
          [.output pairOfTargetsSwapped, .output pairOfSourcesSwapped] }).result = .ok i' ∧
        i.stats = i'.stats ∧ i.workspace.paths.Perm i'.workspace.paths ∧
        (∀ path, Option.Rel Package.Shuffled (i.workspace.contentAt path)
          (i'.workspace.contentAt path)) ∧
        i.workspace.AnswersAlike i'.workspace := by
  have hout : pairOfTargets.stdoutLines.Perm pairOfTargetsSwapped.stdoutLines := by
    decide +kernel
  have hsrc : pairOfSources.stdoutLines.Perm pairOfSourcesSwapped.stdoutLines := by
    decide +kernel
  have h : outputs Script.tool .posix {}
      { replies := [.output pairOfTargets, .output pairOfSources] } =
        .ok (pairOfTargets, pairOfSources) := rfl
  have h' : outputs Script.tool .posix {}
      { replies := [.output pairOfTargetsSwapped, .output pairOfSourcesSwapped] } =
        .ok (pairOfTargetsSwapped, pairOfSourcesSwapped) := rfl
  exact ⟨hout, hsrc, index_permuted_lines h h' hout hsrc⟩

end Query

end BuildAtlas
