import BuildAtlas.Proofs.Query.Grouping
import BuildAtlas.Proofs.Query.Outcome
import BuildAtlas.Proofs.Text.Rows

/-! # The layout of the printed lines

A line is read by its fields, and one without fields is passed over. So the items of an answer, in
their order, and the number of its lines that could not be read are the same in every layout. They
are all that goes into an index, which is therefore the same one, down to the slots of its tree.
-/
namespace BuildAtlas

theorem Text.allBlank_iff_fields {line : String} : allBlank line = true ↔ fields line = [] := by
  rw [fields_eq_iff]
  constructor
  · intro hblank
    exact .blanks hblank
  · intro hlaid
    cases hlaid with
    | blanks hblank => exact hblank

theorem Text.rows_eq_map (text : String) :
    rows text = ((lines text).filter fun line => !allBlank line).map fields := by
  rw [rows, List.filter_map]
  refine congrArg _ (List.filter_congr fun line _ => ?_)
  rw [Bool.eq_iff_iff]
  simp [← Text.allBlank_iff_fields]

namespace Listing
variable {α : Type} {parse : String → Option α} {xs ys : List String} {a b : String}

/-- What is read in a line depends on its fields. -/
def ByFields (parse : String → Option α) : Prop :=
  ∀ line line', Text.fields line = Text.fields line' → parse line = parse line'

/-- Two listings with the same items and as many skipped lines. -/
structure SameRead (l l' : Listing α) : Prop where
  items : l.items = l'.items
  skipped : l.skipped.length = l'.skipped.length

theorem ByFields.map_eq (hparse : ByFields parse) (h : xs.map Text.fields = ys.map Text.fields) :
    xs.map parse = ys.map parse := by
  have hall : List.Forall₂ (fun line line' => Text.fields line = Text.fields line') xs ys := by
    rw [← List.forall₂_eq_eq_eq, List.forall₂_map_left_iff, List.forall₂_map_right_iff] at h
    exact h
  have hsame : List.Forall₂ (· = ·) (xs.map parse) (ys.map parse) := by
    rw [List.forall₂_map_left_iff, List.forall₂_map_right_iff]
    exact hall.imp hparse
  rwa [List.forall₂_eq_eq_eq] at hsame

theorem sameRead_of_rows (hparse : ByFields parse) (h : Text.rows a = Text.rows b) :
    (read parse (Text.lines a)).SameRead (read parse (Text.lines b)) := by
  rw [Text.rows_eq_map, Text.rows_eq_map] at h
  have hread := hparse.map_eq h
  constructor
  · -- the items are what is read, where something is
    have hitems := congrArg (List.filterMap id) hread
    simpa [read, List.filterMap_map] using hitems
  · have hskipped := congrArg (List.countP Option.isNone) hread
    rw [List.countP_map, List.countP_map] at hskipped
    rw [read, read, ← List.countP_eq_length_filter, ← List.countP_eq_length_filter]
    exact hskipped

end Listing

theorem Target.byFields : Listing.ByFields ofLine? := by
  intro line line' h
  rw [ofLine?, ofLine?, h]

theorem SourceFile.byFields : Listing.ByFields ofLine? := by
  intro line line' h
  rw [ofLine?, ofLine?, h]

theorem Index.ofListings_congr {targets targets' : Listing Target}
    {files files' : Listing SourceFile} (ht : targets.SameRead targets')
    (hf : files.SameRead files') : ofListings targets files = ofListings targets' files' := by
  simp only [ofListings, ht.items, ht.skipped, hf.items, hf.skipped]

namespace Query
variable {σ τ : Type} {tool : Tool σ} {tool' : Tool τ} {shell shell' : Shell} {s s' : Settings}
  {st : σ} {st' : τ} {out src out' src' : Output}

theorem indexOf_congr (hout : Text.rows out.stdout = Text.rows out'.stdout)
    (hsrc : Text.rows src.stdout = Text.rows src'.stdout) :
    indexOf (out, src) = indexOf (out', src') :=
  Index.ofListings_congr (Listing.sameRead_of_rows Target.byFields hout)
    (Listing.sameRead_of_rows SourceFile.byFields hsrc)

/-- Outputs that differ in their layout are indexed as the same tree with the same counts. -/
theorem index_relaid_outputs (h : outputs tool shell s st = .ok (out, src))
    (h' : outputs tool' shell' s' st' = .ok (out', src'))
    (hout : Text.Relaid out.stdout out'.stdout) (hsrc : Text.Relaid src.stdout src'.stdout) :
    ∃ i, (index tool shell s st).result = .ok i ∧
      (index tool' shell' s' st').result = .ok i := by
  refine ⟨indexOf (out, src), ?_, ?_⟩
  · rw [index_result, h]
    rfl
  · rw [index_result, h', indexOf_congr hout.rows_eq hsrc.rows_eq]
    rfl

/-! ### One workspace in two layouts -/

def tightTargets : Output := .success "lib rule //a:x\nbin rule //a/b:y\n"

def looseTargets : Output := .success "lib \trule //a:x\r\n \nbin rule //a/b:y"

def tightSources : Output := .success "//c:h"

def looseSources : Output := .success "\t//c:h \n"

theorem relaid_targets : Text.Relaid tightTargets.stdout looseTargets.stdout := by
  have hspace : Text.IsGap " " := ⟨by decide, by decide⟩
  have hwide : Text.IsGap " \t" := ⟨by decide, by decide⟩
  have hstart : Text.AtLineStart "lib \trule //a:x\r\n" := .inr ⟨"lib \trule //a:x\r", by decide⟩
  have hbetween : Text.Reformats tightTargets.stdout "lib \trule //a:x\nbin rule //a/b:y\n" :=
    .between "lib" "rule //a:x\nbin rule //a/b:y\n" hspace hwide (by decide) (by decide)
  have hend : Text.Reformats "lib \trule //a:x\nbin rule //a/b:y\n"
      "lib \trule //a:x\r\nbin rule //a/b:y\n" :=
    .lineEnd "lib \trule //a:x" "bin rule //a/b:y\n"
  have hblank : Text.Reformats "lib \trule //a:x\r\nbin rule //a/b:y\n"
      "lib \trule //a:x\r\n \nbin rule //a/b:y\n" := .blankLine "bin rule //a/b:y\n" hstart hspace
  have hlast : Text.Reformats looseTargets.stdout
      "lib \trule //a:x\r\n \nbin rule //a/b:y\n" := .lastEnd _
  exact ((Relation.EqvGen.rel _ _ hbetween).trans _ _ _ (.rel _ _ hend)).trans _ _ _
    ((Relation.EqvGen.rel _ _ hblank).trans _ _ _ (.symm _ _ (.rel _ _ hlast)))

theorem relaid_sources : Text.Relaid tightSources.stdout looseSources.stdout := by
  have hspace : Text.IsGap " " := ⟨by decide, by decide⟩
  have htab : Text.IsGap "\t" := ⟨by decide, by decide⟩
  have hleading : Text.Reformats tightSources.stdout "\t//c:h" :=
    .leading "//c:h" (.inl rfl) htab
  have htrailing : Text.Reformats "\t//c:h" "\t//c:h " := .trailing "\t//c:h" (.inl rfl) hspace
  exact ((Relation.EqvGen.rel _ _ hleading).trans _ _ _ (.rel _ _ htrailing)).trans _ _ _
    (.rel _ _ (.lastEnd _))

theorem index_relaid_outputs_loose :
    Text.Relaid tightTargets.stdout looseTargets.stdout ∧
      Text.Relaid tightSources.stdout looseSources.stdout ∧
      ∃ i, (index Script.tool .posix {}
          { replies := [.output tightTargets, .output tightSources] }).result = .ok i ∧
        (index Script.tool .posix {}
          { replies := [.output looseTargets, .output looseSources] }).result = .ok i ∧
        i.stats = { targets := 2, files := 1, skipped := 0, packages := 4 } := by
  have h : outputs Script.tool .posix {}
      { replies := [.output tightTargets, .output tightSources] } =
        .ok (tightTargets, tightSources) := rfl
  have h' : outputs Script.tool .posix {}
      { replies := [.output looseTargets, .output looseSources] } =
        .ok (looseTargets, looseSources) := rfl
  obtain ⟨i, hi, hi'⟩ := index_relaid_outputs h h' relaid_targets relaid_sources
  refine ⟨relaid_targets, relaid_sources, i, hi, hi', ?_⟩
  rw [index_result, h] at hi
  obtain rfl := Except.ok.inj hi
  decide +kernel

end Query

end BuildAtlas
