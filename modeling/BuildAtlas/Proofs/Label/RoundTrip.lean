import BuildAtlas.Proofs.Label.Path

/-! # Writing labels and reading them back

Several forms read as one label; writing picks one of them. The labels that reading gives are
described without reading, and on these the form that is written reads as the label again.
-/
namespace BuildAtlas.Label
variable {l : Label} {f : Form} {text : String}

/-- A package and, unless it is empty, a name. -/
def Body.ofTarget (package : PackagePath) (name : String) : Body :=
  .absolute package (if name = "" then none else some name)

/-- The form in which a label is written. -/
def canonical : Label → Form
  | file segments => .file (PackagePath.joined segments)
  | here name => .plain (.colon name)
  | absolute workspace package name =>
    if workspace = "" then .plain (.ofTarget package name)
    else .external workspace
      (if package = [] ∧ name = "" then none else some (.ofTarget package name))

/-- The labels that some text reads as. -/
def Readable : Label → Prop
  | file segments => (Form.file (PackagePath.joined segments)).Valid ∧
      ∀ s ∈ segments, '/' ∉ s.toList
  | here name => IsName name
  | absolute workspace package name =>
    IsWorkspace workspace ∧ IsPath package ∧ (name = "" ∨ IsName name)

theorem Body.text_ofTarget (package : PackagePath) (name : String) :
    (ofTarget package name).text = renderTarget package name := by
  by_cases hn : name = "" <;>
    simp [ofTarget, hn, text, renderTarget, PackagePath.render, String.append_assoc]

theorem Body.valid_ofTarget {package : PackagePath} {name : String} (hp : IsPath package)
    (hn : name = "" ∨ IsName name) : (ofTarget package name).Valid := by
  refine ⟨hp, fun n he => ?_⟩
  split at he
  · cases he
  · rename_i hne
    cases he
    exact hn.resolve_left hne

theorem text_canonical (l : Label) : l.canonical.text = l.render := by
  cases l with
  | file segments => rfl
  | here name => rfl
  | absolute workspace package name =>
    simp only [canonical, render]
    split
    · exact Body.text_ofTarget package name
    · split
      · simp [Form.text]
      · simp [Form.text, Body.text_ofTarget]

theorem Readable.valid_canonical (h : l.Readable) : l.canonical.Valid := by
  cases l with
  | file segments => exact h.1
  | here name => exact h
  | absolute workspace package name =>
    obtain ⟨hw, hp, hn⟩ := h
    simp only [canonical]
    split
    · exact Body.valid_ofTarget hp hn
    · rename_i hne
      refine ⟨hw, fun _ => hne, fun b he => ?_⟩
      split at he
      · cases he
      · cases he
        exact Body.valid_ofTarget hp hn

theorem Readable.label_canonical (h : l.Readable) : l.canonical.label = l := by
  cases l with
  | file pieces =>
    have hne : pieces ≠ [] := by
      rintro rfl
      exact h.1.1 rfl
    exact congrArg file (segments_joined hne h.2)
  | here name => rfl
  | absolute workspace package name =>
    by_cases hw : workspace = "" <;> by_cases hn : name = "" <;> by_cases hp : package = [] <;>
      simp [canonical, Body.ofTarget, hw, hn, hp, Form.label, Body.label]

theorem Body.readable_label {b : Body} {workspace : String} (hw : IsWorkspace workspace)
    (hb : b.Valid) : (b.label workspace).Readable := by
  cases b with
  | absolute package name =>
    refine ⟨hw, hb.1, ?_⟩
    cases name with
    | none => exact .inl rfl
    | some n => exact .inr (hb.2 n rfl)
  | colon name =>
    by_cases he : workspace = ""
    · rw [label, if_pos he]
      exact hb
    · rw [label, if_neg he]
      exact ⟨hw, by simp [IsPath], .inr hb⟩

theorem Form.readable_label (h : f.Valid) : f.label.Readable := by
  cases f with
  | external workspace body =>
    obtain ⟨hw, _, hb⟩ := h
    cases body with
    | none => exact ⟨hw, by simp [IsPath], .inl rfl⟩
    | some b => exact Body.readable_label hw (hb b rfl)
  | plain b => exact Body.readable_label ⟨by simp, by simp⟩ h
  | file text =>
    have ht := joined_segments_toList text
    exact ⟨ht.symm ▸ h, fun s hs => noSlash_of_mem_segments hs⟩

theorem readable_of_parse (h : parse text = .ok l) : l.Readable := by
  obtain ⟨f, hf, rfl⟩ := exists_spells_of_parse h
  exact Form.readable_label hf.1

theorem Readable.parse_render (h : l.Readable) : parse l.render = .ok l := by
  have hp := parse_of_spells ⟨h.valid_canonical, text_canonical l⟩
  rwa [h.label_canonical] at hp

theorem IsName.parse_colon {name : String} (h : IsName name) :
    parse (":" ++ name) = .ok (.here name) := by
  have hreadable : (here name).Readable := h
  exact hreadable.parse_render

/-- Without a name, a label of this workspace is written as its package. -/
theorem IsPath.parse_render {package : PackagePath} (h : IsPath package) :
    parse package.render = .ok (.absolute "" package "") := by
  have hreadable : (absolute "" package "").Readable := ⟨⟨by simp, by simp⟩, h, .inl rfl⟩
  have hrender : (absolute "" package "").render = package.render := String.append_empty
  exact hrender ▸ hreadable.parse_render

/-- With a name, a label of this workspace is written as package, colon and name. -/
theorem render_of_named {package : PackagePath} {name : String} (hn : name ≠ "") :
    (absolute "" package name).render = package.render ++ ":" ++ name := by
  simp [render, renderTarget, hn, String.append_assoc]

theorem IsPath.parse_render_named {package : PackagePath} {name : String} (h : IsPath package)
    (hn : IsName name) :
    parse (package.render ++ ":" ++ name) = .ok (.absolute "" package name) := by
  have hreadable : (absolute "" package name).Readable := ⟨⟨by simp, by simp⟩, h, .inr hn⟩
  rw [← render_of_named hn.ne_empty]
  exact hreadable.parse_render

/-- Writing undoes reading up to spelling, no two readable labels are written alike, and a
workspace, a package and a name can be given freely. -/
theorem parse_render_label :
    (∀ text l, parse text = .ok l →
      parse l.render = .ok l ∧ ∀ m, parse l.render = .ok m → m.render = l.render) ∧
    (∀ text text' l l', parse text = .ok l → parse text' = .ok l' →
      l.render = l'.render → l = l') ∧
    ∀ workspace package name, IsWorkspace workspace → IsPath package →
      (name = "" ∨ IsName name) →
      parse (absolute workspace package name).render = .ok (absolute workspace package name) := by
  have hfix : ∀ text l, parse text = .ok l → parse l.render = .ok l :=
    fun text l h => (readable_of_parse h).parse_render
  refine ⟨fun text l h => ⟨hfix text l h, fun m hm => ?_⟩, fun text text' l l' h h' hr => ?_,
    fun workspace package name hw hp hn => ?_⟩
  · rw [Except.ok.inj ((hfix text l h).symm.trans hm)]
  · have hl := hfix text l h
    rw [hr, hfix text' l' h'] at hl
    exact (Except.ok.inj hl).symm
  · exact Readable.parse_render ⟨hw, hp, hn⟩

end BuildAtlas.Label
