import BuildAtlas.Proofs.Query.Checking
import BuildAtlas.Proofs.Query.Outcome

/-! # What an index holds can be written as labels

Lines are indexed only when their last field reads as a label, so the packages of an index are
paths that a label can have, and the targets have names that a label can have.
-/
namespace BuildAtlas

/-- Every package and every target of the tree can be written as a label. -/
structure Workspace.Legible (w : Workspace) : Prop where
  forest : w.Forest []
  isPath : ∀ path s, w.find path = some s → Label.IsPath path
  target : ∀ path n t, w.nodeAt path = some n → t ∈ n.package.targets →
    t.package = path ∧ Label.IsName t.name

section printed
variable {line : String} {t : Target} {f : SourceFile}

theorem Target.isName_of_ofLine? (h : ofLine? line = some t) :
    Label.IsPath t.package ∧ Label.IsName t.name := by
  obtain ⟨hparse, hname⟩ := parse_label h
  obtain ⟨_, hpath, hempty | hn⟩ := Label.readable_of_parse hparse
  · exact absurd hempty hname
  · exact ⟨hpath, hn⟩

theorem SourceFile.isPath_of_ofLine? (h : ofLine? line = some f) : Label.IsPath f.owner := by
  obtain ⟨_, label, package, name, _, hread, rfl⟩ := ofLine?_eq_some_iff.mp h
  obtain ⟨hparse, _⟩ := workspaceTarget?_eq_some_iff.mp hread
  exact (Label.readable_of_parse hparse).2.1

theorem SourceFile.ofLine?_of_allBlank (h : Text.allBlank line = true) :
    SourceFile.ofLine? line = none := by
  simp [ofLine?, Text.fields, Text.words_eq_nil h]

theorem Listing.mem_sources {o : Output} : f ∈ (Listing.sources o).items ↔
    ∃ line ∈ o.stdoutLines, SourceFile.ofLine? line = some f :=
  mem_read fun _ => SourceFile.ofLine?_of_allBlank

end printed

namespace Query
variable {σ : Type} {tool : Tool σ} {shell : Shell} {s : Settings} {st : σ} {i : Index}

theorem groups_indexOf (o : Output × Output) : (indexOf o).workspace.Groups
    (Listing.targets o.1).items (Listing.sources o.2).items :=
  Workspace.ofItems_groups _ _

theorem legible_indexOf (o : Output × Output) : (indexOf o).workspace.Legible := by
  have hforest : (indexOf o).workspace.Forest [] := Workspace.forest_ofItems _ _
  refine ⟨hforest, fun path s hs => ?_, fun path n t hn ht => ?_⟩
  · have hmentioned : ∀ m ∈ Workspace.mentions (Listing.targets o.1).items
        (Listing.sources o.2).items, Label.IsPath m := by
      intro m hm
      rcases List.mem_append.mp hm with hm | hm
      · obtain ⟨t, ht, rfl⟩ := List.mem_map.mp hm
        obtain ⟨line, _, hline⟩ := Listing.mem_targets.mp ht
        exact (Target.isName_of_ofLine? hline).1
      · obtain ⟨f, hf, rfl⟩ := List.mem_map.mp hm
        obtain ⟨line, _, hline⟩ := Listing.mem_sources.mp hf
        exact SourceFile.isPath_of_ofLine? hline
    have hpath := hforest.mem_paths.mpr ⟨s, hs⟩
    rcases ((groups_indexOf o).mem_paths path).mp hpath with rfl | ⟨m, hm, hp⟩
    · intro segment hsegment
      cases hsegment
    · exact fun segment hsegment => hmentioned m hm segment (hp.subset hsegment)
  · have hhas : (indexOf o).workspace.Has path (.target t) :=
      ⟨n.package, by simp [Workspace.contentAt, hn], ht⟩
    obtain ⟨hitem, hhome⟩ := Workspace.ofItems_has.mp hhas
    have hindexed : t ∈ (Listing.targets o.1).items := by simpa [Workspace.itemsOf] using hitem
    obtain ⟨line, _, hline⟩ := Listing.mem_targets.mp hindexed
    exact ⟨hhome, (Target.isName_of_ofLine? hline).2⟩

theorem legible_of_index (hi : (index tool shell s st).result = .ok i) :
    i.workspace.Legible := by
  rw [index_result] at hi
  cases ho : outputs tool shell s st with
  | error fault => simp [ho, Except.map] at hi
  | ok o =>
    rw [ho] at hi
    obtain rfl := Except.ok.inj hi
    exact legible_indexOf o

end Query

end BuildAtlas
