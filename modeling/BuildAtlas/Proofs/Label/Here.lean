import BuildAtlas.Label.Verdict
import BuildAtlas.Proofs.Label.Grammar
import BuildAtlas.Proofs.Workspace.Histories

/-! # Labels of the package at hand

A label means a target of the package at hand when its text begins with a colon, and so does one
that has an at sign and no workspace in front of the colon. No other label looks at the package at
hand, neither for the target that it names nor in a check.
-/
namespace BuildAtlas

namespace Label
variable {cs : List Char} {l : Label} {f : Form} {b : Body} {text workspace : String}
  {current current' : PackagePath}

/-- A colon stands first, or right behind an at sign. -/
def BeginsHere (text : String) : Prop :=
  [':'] <+: text.toList ∨ ['@', ':'] <+: text.toList

/-! ## Texts -/

theorem IsWorkspace.colon_prefix_iff (h : IsWorkspace workspace) :
    [':'] <+: workspace.toList ++ cs ↔ workspace = "" ∧ [':'] <+: cs := by
  cases hw : workspace.toList with
  | nil =>
    obtain rfl := String.toList_eq_nil_iff.mp hw
    simp
  | cons c rest =>
    have hc : ':' ≠ c := by
      rintro rfl
      exact h.noColon (hw ▸ List.mem_cons_self)
    have hne : workspace ≠ "" := by
      rintro rfl
      cases hw
    simp [hc, hne]

theorem beginsHere_iff_colon_iff : (BeginsHere text ↔ [':'] <+: text.toList) ↔
    ¬ ['@', ':'] <+: text.toList := by
  have hapart : ['@', ':'] <+: text.toList → ¬ [':'] <+: text.toList := by
    rintro ⟨rest, hrest⟩ ⟨rest', hrest'⟩
    cases hrest.trans hrest'.symm
  rw [BeginsHere]
  tauto

theorem Body.colon_prefix_iff (h : b.Valid) :
    [':'] <+: b.text.toList ↔ ∃ name, b = .colon name := by
  cases b with
  | absolute package name =>
    obtain ⟨rest, hrest, -⟩ := exists_absolute_text h
    simp [hrest]
  | colon name => simp [text_colon]

theorem Body.isHere_label : (b.label workspace).isHere = true ↔
    workspace = "" ∧ ∃ name, b = .colon name := by
  cases b with
  | absolute package name => simp [label, isHere]
  | colon name => by_cases hw : workspace = "" <;> simp [label, isHere, hw]

theorem Form.isHere_iff (h : f.Valid) : f.label.isHere = true ↔ BeginsHere f.text := by
  cases f with
  | external workspace body =>
    obtain ⟨hws, hne, hbody⟩ := h
    have hfirst : ¬ [':'] <+: (external workspace body).text.toList := by simp [text_external]
    have hsecond : ['@', ':'] <+: (external workspace body).text.toList ↔
        workspace = "" ∧ [':'] <+: ((body.map Body.text).getD "").toList := by
      rw [text_external, List.cons_prefix_cons, hws.colon_prefix_iff]
      simp
    rw [BeginsHere, hsecond, or_iff_right hfirst]
    cases body with
    | none => simp [label, isHere]
    | some b =>
      rw [Option.map_some, Option.getD_some, Body.colon_prefix_iff (hbody b rfl)]
      exact Body.isHere_label
  | plain b =>
    have hsecond : ¬ ['@', ':'] <+: b.text.toList := by
      rintro ⟨rest, hrest⟩
      exact (Body.stop h).ne_at _ hrest
    rw [BeginsHere, text, or_iff_left hsecond, Body.colon_prefix_iff h, label, Body.isHere_label]
    simp
  | file text =>
    obtain ⟨-, hmark⟩ := valid_file_iff.mp h
    refine iff_of_false Bool.false_ne_true ?_
    rintro (⟨rest, hrest⟩ | ⟨rest, hrest⟩)
    · exact (hmark rest).2.2 hrest.symm
    · exact (hmark _).1 hrest.symm

theorem isHere_iff_of_parse (h : parse text = .ok l) : l.isHere = true ↔ BeginsHere text := by
  obtain ⟨f, ⟨hvalid, rfl⟩, rfl⟩ := exists_spells_of_parse h
  exact Form.isHere_iff hvalid

/-! ## Targets -/

theorem target?_eq_of_not_isHere (h : l.isHere = false) (current current' : PackagePath) :
    l.target? current = l.target? current' := by
  cases l with
  | here name => cases h
  | file segments => rfl
  | absolute workspace package name => rfl

theorem exists_target?_ne_iff :
    (∃ current current', l.target? current ≠ l.target? current') ↔ l.isHere = true := by
  constructor
  · rintro ⟨current, current', hne⟩
    by_contra hnot
    exact hne (target?_eq_of_not_isHere (Bool.eq_false_iff.mpr hnot) current current')
  · intro h
    cases l with
    | here name =>
      refine ⟨[], [""], fun heq => ?_⟩
      have hpackage : ([] : PackagePath) = [""] := congrArg Target.package (Option.some.inj heq)
      cases hpackage
    | file segments => cases h
    | absolute workspace package name => cases h

end Label

/-! ## Checks -/

namespace Workspace
variable {w : Workspace} {text : String} {current current' : PackagePath} {l : Label}

theorem check_eq_of_not_isHere (hparse : Label.parse text = .ok l) (h : l.isHere = false)
    (current current' : PackagePath) : w.check current text = w.check current' text := by
  simp only [check, hparse, judge]
  rw [Label.target?_eq_of_not_isHere h current current']

theorem Forest.declares_of_size_le {t : Target} (h : w.Forest [])
    (ht : w.slots.size ≤ t.package.length) : w.declares t = false := by
  have hfind : w.find t.package = none := by
    rw [Option.eq_none_iff_forall_ne_some]
    intro s hs
    have hlt := h.length_lt_size hs
    omega
  rw [declares, nodeAt, hfind]
  rfl

theorem Forest.exists_check_ne {name : String} (h : w.Forest [])
    (hparse : Label.parse text = .ok (.here name)) :
    ∃ current current', w.check current text ≠ w.check current' text := by
  -- a package that lies deeper than the tree declares nothing, and the verdict repeats its path
  have hcheck : ∀ current : PackagePath, w.slots.size ≤ current.length →
      w.check current text = .unknown ⟨current, name, ""⟩ := by
    intro current hlong
    have hdeclares := h.declares_of_size_le (t := ⟨current, name, ""⟩) hlong
    simp [check, hparse, judge, Label.isFile, Label.hasWorkspace, Label.workspace, Label.target?,
      hdeclares]
  refine ⟨List.replicate w.slots.size "", List.replicate (w.slots.size + 1) "", ?_⟩
  rw [hcheck _ (by simp), hcheck _ (by simp)]
  intro heq
  have hpackage := congrArg (fun t => t.package.length) (Verdict.unknown.inj heq)
  simp at hpackage

theorem Forest.exists_check_ne_iff (h : w.Forest []) :
    (∃ current current', w.check current text ≠ w.check current' text) ↔
      (∃ l, Label.parse text = .ok l) ∧ Label.BeginsHere text := by
  cases hparse : Label.parse text with
  | error fault => simp [check, hparse]
  | ok l =>
    rw [← Label.isHere_iff_of_parse hparse]
    cases hhere : l.isHere with
    | false =>
      refine iff_of_false ?_ fun hboth => Bool.false_ne_true hboth.2
      rintro ⟨current, current', hne⟩
      exact hne (check_eq_of_not_isHere hparse hhere current current')
    | true =>
      refine iff_of_true ?_ ⟨⟨l, rfl⟩, rfl⟩
      cases l with
      | here name => exact h.exists_check_ne hparse
      | file segments => cases hhere
      | absolute workspace package name => cases hhere

end Workspace

namespace Label

/-- A label is one of the package at hand just when its text begins with a colon or with an at sign
and a colon, and these labels alone lead to other targets and, in every tree, to other verdicts
when the package at hand is another. -/
theorem parse_here_by_text (text : String) :
    (∀ l, parse text = .ok l → (l.isHere = true ↔ BeginsHere text) ∧
      ((l.isHere = true ↔ [':'] <+: text.toList) ↔ ¬ ['@', ':'] <+: text.toList) ∧
      ((∃ current current', l.target? current ≠ l.target? current') ↔ BeginsHere text)) ∧
    ∀ root changes,
      (∃ current current', ((Workspace.withRoot root).run changes).check current text ≠
        ((Workspace.withRoot root).run changes).check current' text) ↔
      (∃ l, parse text = .ok l) ∧ BeginsHere text := by
  refine ⟨fun l hl => ?_, fun root changes => ?_⟩
  · have hhere := isHere_iff_of_parse hl
    refine ⟨hhere, ?_, exists_target?_ne_iff.trans hhere⟩
    rw [hhere]
    exact beginsHere_iff_colon_iff
  · exact (Workspace.forest_run root changes).exists_check_ne_iff

/-- With an at sign and no workspace in front of it a colon still means the package at hand. -/
theorem here_behind_at_sign :
    ¬ ∀ text l, parse text = .ok l → (l.isHere = true ↔ [':'] <+: text.toList) := by
  intro hcolon
  have hparse : parse "@:x" = .ok (.here "x") := by decide +kernel
  obtain ⟨rest, hrest⟩ := (hcolon _ _ hparse).mp rfl
  cases hrest

end Label

end BuildAtlas
