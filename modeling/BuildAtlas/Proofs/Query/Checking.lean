import BuildAtlas.Label.Verdict
import BuildAtlas.Proofs.Label.RoundTrip
import BuildAtlas.Proofs.Query.Grouping
import BuildAtlas.Proofs.Workspace.Membership

/-! # Checks against an index

What a label stands for is said by its form, apart from any tree. A check reads the label and
asks whether what it stands for is declared; against an index this is to ask whether some line
of the printed targets reads as a target of that package and that name.
-/
namespace BuildAtlas

namespace Label
variable {current package : PackagePath} {name text : String} {l : Label} {t : Target}

/-- The package and the name that a label of this workspace stands for, seen from a package. A
package alone stands for the target called like its last segment. -/
inductive Names (current : PackagePath) : Label → PackagePath → String → Prop
  | here {n} : Names current (.here n) current n
  | named {p n} : n ≠ "" → Names current (.absolute "" p n) p n
  | bare {above last} :
      Names current (.absolute "" (above ++ [last]) "") (above ++ [last]) last

theorem Names.target?_eq (h : l.Names current package name) :
    l.target? current = some ⟨package, name, ""⟩ ∧ l.isFile = false ∧
      l.hasWorkspace = false := by
  cases h with
  | here => exact ⟨rfl, rfl, rfl⟩
  | named hn => exact ⟨by simp [target?, hn], rfl, rfl⟩
  | bare => exact ⟨by simp [target?], rfl, rfl⟩

theorem names_of_target? (h : l.target? current = some t) (hw : l.hasWorkspace = false) :
    l.Names current t.package t.name ∧ t.kind = "" := by
  cases l with
  | file segments => simp [target?] at h
  | here name =>
    cases h
    exact ⟨.here, rfl⟩
  | absolute workspace package name =>
    obtain rfl : workspace = "" := by simpa [hasWorkspace, Label.workspace] using hw
    by_cases hn : name = ""
    · subst hn
      simp only [target?, if_true] at h
      rcases List.eq_nil_or_concat package with rfl | ⟨above, last, rfl⟩
      · simp at h
      · rw [List.concat_eq_append] at h ⊢
        simp only [List.getLast?_concat, Option.map_some, Option.some.injEq] at h
        subst h
        exact ⟨.bare, rfl⟩
    · simp only [target?, if_neg hn, Option.some.injEq] at h
      subst h
      exact ⟨.named hn, rfl⟩

theorem target?_eq_none_iff (hl : l.Readable) (hf : l.isFile = false) :
    l.target? current = none ↔ l.hasPackage = false ∧ l.hasName = false := by
  cases l with
  | file segments => simp [isFile] at hf
  | here name =>
    have hn : name ≠ "" := IsName.ne_empty hl
    simp [target?, hasName, Label.name, hn]
  | absolute workspace package name =>
    by_cases hn : name = "" <;> simp [target?, hasPackage, hasName, packagePath, Label.name, hn]

/-- A file path that was read has a segment and no workspace. -/
theorem Readable.hasPackage_of_isFile (hl : l.Readable) (hf : l.isFile = true) :
    l.hasPackage = true ∧ l.hasWorkspace = false := by
  cases l with
  | file segments =>
    refine ⟨?_, rfl⟩
    have hne : segments ≠ [] := by
      rintro rfl
      exact hl.1.1 rfl
    simpa [hasPackage, packagePath] using hne
  | here name => simp [isFile] at hf
  | absolute workspace package name => simp [isFile] at hf

end Label

namespace Workspace
variable {w : Workspace} {Declared : PackagePath → String → Prop}

/-- A check tells apart the texts that are no labels or name nothing, the paths of files, the
labels of other workspaces, and what is declared and is not declared in this one. -/
structure ChecksBy (w : Workspace) (Declared : PackagePath → String → Prop) : Prop where
  invalid : ∀ current text fault, w.check current text = .invalid fault ↔
    Label.parse text = .error fault ∨ fault = .noTarget text ∧ ∃ l, Label.parse text = .ok l ∧
      l.hasWorkspace = false ∧ l.hasPackage = false ∧ l.hasName = false
  file : ∀ current text, w.check current text = .file ↔
    ∃ l, Label.parse text = .ok l ∧ l.isFile = true
  external : ∀ current text, w.check current text = .external ↔
    ∃ l, Label.parse text = .ok l ∧ l.hasWorkspace = true
  valid : ∀ current text, w.check current text = .valid ↔
    ∃ l package name, Label.parse text = .ok l ∧ l.Names current package name ∧
      Declared package name
  unknown : ∀ current text t, w.check current text = .unknown t ↔
    ∃ l, Label.parse text = .ok l ∧ l.Names current t.package t.name ∧ t.kind = "" ∧
      ¬ Declared t.package t.name

/-- The verdict on a label that was read, by what the label is. -/
inductive Judged (w : Workspace) (current : PackagePath) (text : String) (l : Label) :
    Verdict → Prop
  | file : l.isFile = true → Judged w current text l .file
  | external : l.isFile = false → l.hasWorkspace = true → Judged w current text l .external
  | nameless : l.isFile = false → l.hasWorkspace = false → l.target? current = none →
      Judged w current text l (.invalid (.noTarget text))
  | valid {t} : l.isFile = false → l.hasWorkspace = false → l.target? current = some t →
      w.declares t = true → Judged w current text l .valid
  | unknown {t} : l.isFile = false → l.hasWorkspace = false → l.target? current = some t →
      w.declares t = false → Judged w current text l (.unknown t)

theorem judge_eq_iff {current : PackagePath} {text : String} {l : Label} {v : Verdict} :
    w.judge current text l = v ↔ w.Judged current text l v := by
  constructor
  · rintro rfl
    cases hf : l.isFile with
    | true => simpa [judge, hf] using .file hf
    | false =>
      cases hw : l.hasWorkspace with
      | true => simpa [judge, hf, hw] using .external hf hw
      | false =>
        cases ht : l.target? current with
        | none => simpa [judge, hf, hw, ht] using .nameless hf hw ht
        | some t =>
          cases hd : w.declares t with
          | true => simpa [judge, hf, hw, ht, hd] using .valid hf hw ht hd
          | false => simpa [judge, hf, hw, ht, hd] using .unknown hf hw ht hd
  · rintro (hf | ⟨hf, hw⟩ | ⟨hf, hw, ht⟩ | ⟨hf, hw, ht, hd⟩ | ⟨hf, hw, ht, hd⟩) <;>
      simp [judge, *]

theorem check_eq_iff {current : PackagePath} {text : String} {v : Verdict} :
    w.check current text = v ↔ (∃ fault, Label.parse text = .error fault ∧ v = .invalid fault) ∨
      ∃ l, Label.parse text = .ok l ∧ w.Judged current text l v := by
  cases hp : Label.parse text with
  | error fault => simp [check, hp, eq_comm]
  | ok l => simp [check, hp, judge_eq_iff]

/-- A check goes by what is declared, whatever else is in the tree. -/
theorem checksBy_of_declares
    (hd : ∀ t, w.declares t = true ↔ Declared t.package t.name) : w.ChecksBy Declared where
  invalid current text fault := by
    rw [check_eq_iff]
    constructor
    · rintro (⟨fault', hp, he⟩ | ⟨l, hp, hj⟩)
      · cases he
        exact Or.inl hp
      · cases hj with
        | nameless hf hw ht =>
          have hparts := (Label.target?_eq_none_iff (Label.readable_of_parse hp) hf).mp ht
          exact Or.inr ⟨rfl, l, hp, hw, hparts⟩
    · rintro (hp | ⟨rfl, l, hp, hw, hpackage, hname⟩)
      · exact Or.inl ⟨fault, hp, rfl⟩
      · have hl := Label.readable_of_parse hp
        have hf : l.isFile = false := by
          cases hf : l.isFile with
          | false => rfl
          | true => simp [(hl.hasPackage_of_isFile hf).1] at hpackage
        have ht : l.target? current = none :=
          (Label.target?_eq_none_iff hl hf).mpr ⟨hpackage, hname⟩
        exact Or.inr ⟨l, hp, .nameless hf hw ht⟩
  file current text := by
    rw [check_eq_iff]
    constructor
    · rintro (⟨fault, _, he⟩ | ⟨l, hp, hj⟩)
      · cases he
      · cases hj with
        | file hf => exact ⟨l, hp, hf⟩
    · rintro ⟨l, hp, hf⟩
      exact Or.inr ⟨l, hp, .file hf⟩
  external current text := by
    rw [check_eq_iff]
    constructor
    · rintro (⟨fault, _, he⟩ | ⟨l, hp, hj⟩)
      · cases he
      · cases hj with
        | external _ hw => exact ⟨l, hp, hw⟩
    · rintro ⟨l, hp, hw⟩
      have hf : l.isFile = false := by
        cases hf : l.isFile with
        | false => rfl
        | true => simp [((Label.readable_of_parse hp).hasPackage_of_isFile hf).2] at hw
      exact Or.inr ⟨l, hp, .external hf hw⟩
  valid current text := by
    rw [check_eq_iff]
    constructor
    · rintro (⟨fault, _, he⟩ | ⟨l, hp, hj⟩)
      · cases he
      · cases hj with
        | @valid t _ hw ht hdecl =>
          exact ⟨l, t.package, t.name, hp, (Label.names_of_target? ht hw).1, (hd t).mp hdecl⟩
    · rintro ⟨l, package, name, hp, hnames, hdecl⟩
      obtain ⟨ht, hf, hw⟩ := hnames.target?_eq
      exact Or.inr ⟨l, hp, .valid hf hw ht ((hd _).mpr hdecl)⟩
  unknown current text t := by
    rw [check_eq_iff]
    constructor
    · rintro (⟨fault, _, he⟩ | ⟨l, hp, hj⟩)
      · cases he
      · cases hj with
        | unknown _ hw ht hdecl =>
          obtain ⟨hnames, hkind⟩ := Label.names_of_target? ht hw
          exact ⟨l, hp, hnames, hkind, by simp [← hd, hdecl]⟩
    · rintro ⟨l, hp, hnames, hkind, hdecl⟩
      obtain ⟨package, name, kind⟩ := t
      obtain rfl : kind = "" := hkind
      obtain ⟨ht, hf, hw⟩ := hnames.target?_eq
      rw [← hd ⟨package, name, ""⟩, Bool.not_eq_true] at hdecl
      exact Or.inr ⟨l, hp, .unknown hf hw ht hdecl⟩

/-! ## Trees of printed items -/

theorem ofItems_has {targets : List Target} {files : List SourceFile} {path : PackagePath}
    {i : Item} : (ofItems targets files).Has path i ↔
      i ∈ itemsOf targets files ∧ i.home = path := by
  rw [ofItems_eq, has_insertAll]

theorem ofItems_declares {targets : List Target} {files : List SourceFile} (t : Target) :
    (ofItems targets files).declares t = true ↔
      ∃ u ∈ targets, u.package = t.package ∧ u.name = t.name := by
  rw [declares_iff_of_has fun _ _ => ofItems_has]
  simp [itemsOf]

end Workspace

/-! ## Printed targets -/

section lines
variable {line text : String} {package : PackagePath} {name : String} {t : Target} {o : Output}

theorem workspaceTarget?_eq_some_iff : workspaceTarget? text = some (package, name) ↔
    Label.parse text = .ok (.absolute "" package name) ∧ name ≠ "" := by
  constructor
  · intro h
    unfold workspaceTarget? at h
    split at h
    · rename_i l hp
      cases l with
      | file segments => cases h
      | here n => cases h
      | absolute workspace p n =>
        simp only [Label.targetIn?] at h
        split at h
        · rename_i hparts
          obtain ⟨rfl, hn⟩ := hparts
          cases h
          exact ⟨hp, hn⟩
        · cases h
    · cases h
  · rintro ⟨hp, hn⟩
    simp [workspaceTarget?, hp, Label.targetIn?, hn]

/-- The kind is the first field, and the label is the last of the others. -/
theorem Target.ofLine?_eq_some_iff : ofLine? line = some t ↔ ∃ middle label,
    Text.fields line = t.kind :: middle ++ [label] ∧
      workspaceTarget? label = some (t.package, t.name) := by
  simp only [ofLine?]
  constructor
  · intro h
    split at h
    · cases h
    · cases h
    · next kind rest hne hfields =>
      obtain ⟨label, hlast, h⟩ := Option.bind_eq_some_iff.mp h
      obtain ⟨⟨package, name⟩, hlabel, h⟩ := Option.bind_eq_some_iff.mp h
      cases h
      obtain ⟨middle, rfl⟩ := List.getLast?_eq_some_iff.mp hlast
      exact ⟨middle, label, hfields, hlabel⟩
  · rintro ⟨middle, label, hfields, hlabel⟩
    rw [hfields]
    cases middle with
    | nil => simp [hlabel]
    | cons next middle =>
      have hlast : (next :: (middle ++ [label])).getLast? = some label :=
        List.getLast?_concat (l := next :: middle)
      simp [hlast, hlabel]

theorem SourceFile.ofLine?_eq_some_iff {f : SourceFile} : ofLine? line = some f ↔
    ∃ front label package name, Text.fields line = front ++ [label] ∧
      workspaceTarget? label = some (package, name) ∧ f = inPackage package name := by
  constructor
  · intro h
    obtain ⟨label, hlast, h⟩ := Option.bind_eq_some_iff.mp h
    obtain ⟨⟨package, name⟩, hlabel, h⟩ := Option.bind_eq_some_iff.mp h
    cases h
    obtain ⟨front, hfields⟩ := List.getLast?_eq_some_iff.mp hlast
    exact ⟨front, label, package, name, hfields, hlabel, rfl⟩
  · rintro ⟨front, label, package, name, hfields, hlabel, rfl⟩
    simp [ofLine?, hfields, hlabel]

theorem Target.ofLine?_of_allBlank (h : Text.allBlank line = true) :
    Target.ofLine? line = none := by
  simp [ofLine?, Text.fields, Text.words_eq_nil h]

/-- The label of a target that was printed reads as the target's package and name. -/
theorem Target.parse_label (h : Target.ofLine? line = some t) :
    Label.parse t.label = .ok (.absolute "" t.package t.name) ∧ t.name ≠ "" := by
  obtain ⟨_, _, _, hread⟩ := ofLine?_eq_some_iff.mp h
  obtain ⟨hp, hn⟩ := workspaceTarget?_eq_some_iff.mp hread
  refine ⟨?_, hn⟩
  rw [Target.label, ← Label.render_of_named hn]
  exact (Label.readable_of_parse hp).parse_render

/-- Blank lines are passed over before they are read, which makes no difference to the items. -/
theorem Listing.items_read {α : Type} {parse : String → Option α} {lines : List String}
    (hblank : ∀ line, Text.allBlank line = true → parse line = none) :
    (read parse lines).items = lines.filterMap parse := by
  rw [read, List.filterMap_filter]
  refine List.filterMap_congr fun line _ => ?_
  cases hb : Text.allBlank line with
  | false => rfl
  | true => exact (hblank line hb).symm

theorem Listing.mem_read {α : Type} {parse : String → Option α} {lines : List String} {a : α}
    (hblank : ∀ line, Text.allBlank line = true → parse line = none) :
    a ∈ (read parse lines).items ↔ ∃ line ∈ lines, parse line = some a := by
  rw [items_read hblank, List.mem_filterMap]

theorem Listing.mem_targets : t ∈ (Listing.targets o).items ↔
    ∃ line ∈ o.stdoutLines, Target.ofLine? line = some t :=
  mem_read fun _ => Target.ofLine?_of_allBlank

end lines

namespace Query
variable {σ : Type} {tool : Tool σ} {shell : Shell} {s : Settings} {st st' st'' : σ}
  {out src : Output}

/-- Against the index of two answers that ended well, a check asks for a printed line that
reads as a target of the package and the name that the label stands for; the label of an
indexed target is valid wherever it stands. -/
theorem index_checks_by_lines (ht : tool.run (targetCommand shell s) st = (.ok out, st'))
    (hf : tool.run (sourceCommand shell s) st' = (.ok src, st''))
    (hout : out.succeeded) (hsrc : src.succeeded) :
    ∃ i, (index tool shell s st).result = .ok i ∧
      i.workspace.ChecksBy (fun package name => ∃ line ∈ out.stdoutLines, ∃ t,
        Target.ofLine? line = some t ∧ t.package = package ∧ t.name = name) ∧
      ∀ path n t current, i.workspace.nodeAt path = some n → t ∈ n.package.targets →
        i.workspace.check current t.label = .valid := by
  refine ⟨_, index_of_succeeded ht hf hout hsrc, ?_⟩
  have hchecks : (Index.ofListings (Listing.targets out) (Listing.sources src)).workspace.ChecksBy
      fun package name => ∃ line ∈ out.stdoutLines, ∃ t, Target.ofLine? line = some t ∧
        t.package = package ∧ t.name = name := by
    refine Workspace.checksBy_of_declares fun t => ?_
    rw [Index.ofListings, Workspace.ofItems_declares]
    constructor
    · rintro ⟨u, hu, hpackage, hname⟩
      obtain ⟨line, hline, hu⟩ := Listing.mem_targets.mp hu
      exact ⟨line, hline, u, hu, hpackage, hname⟩
    · rintro ⟨line, hline, u, hu, hpackage, hname⟩
      exact ⟨u, Listing.mem_targets.mpr ⟨line, hline, hu⟩, hpackage, hname⟩
  refine ⟨hchecks, fun path n t current hn hmem => ?_⟩
  have hhas : (Index.ofListings (Listing.targets out) (Listing.sources src)).workspace.Has path
      (.target t) := ⟨n.package, by simp [Workspace.contentAt, hn], hmem⟩
  obtain ⟨hitem, _⟩ := Workspace.ofItems_has.mp hhas
  have hindexed : t ∈ (Listing.targets out).items := by simpa [Workspace.itemsOf] using hitem
  obtain ⟨line, hline, hread⟩ := Listing.mem_targets.mp hindexed
  obtain ⟨hp, hname⟩ := Target.parse_label hread
  exact (hchecks.valid current t.label).mpr
    ⟨_, t.package, t.name, hp, .named hname, line, hline, t, hread, rfl, rfl⟩

theorem index_checks_by_lines_noisy :
    noisyTargets.succeeded ∧ noisySources.succeeded ∧
      ∃ i, (index Script.tool .posix {}
          { replies := [.output noisyTargets, .output noisySources] }).result = .ok i ∧
        i.workspace.check ["a"] ":y" = .valid ∧
        i.workspace.check ["c"] "@ext//z:g" = .external ∧
        ∀ path n t current, i.workspace.nodeAt path = some n → t ∈ n.package.targets →
          i.workspace.check current t.label = .valid := by
  have hsources : noisySources.succeeded := rfl
  have ht : Script.tool.run (targetCommand .posix {})
      { replies := [.output noisyTargets, .output noisySources] } = (.ok noisyTargets, _) := rfl
  obtain ⟨i, hi, hchecks, hlabels⟩ := index_checks_by_lines ht rfl rfl hsources
  refine ⟨rfl, hsources, i, hi, ?_, ?_, hlabels⟩
  · have hline : "java_library rule //a:y" ∈ noisyTargets.stdoutLines := by decide +kernel
    exact (hchecks.valid ["a"] ":y").mpr
      ⟨.here "y", ["a"], "y", rfl, .here, _, hline, ⟨["a"], "y", "java_library"⟩, rfl, rfl, rfl⟩
  · exact (hchecks.external ["c"] "@ext//z:g").mpr ⟨.absolute "ext" ["z"] "g", rfl, rfl⟩

end Query

end BuildAtlas
