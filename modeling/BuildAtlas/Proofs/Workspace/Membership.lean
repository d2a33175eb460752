import BuildAtlas.Proofs.Workspace.Erasure
import BuildAtlas.Proofs.Workspace.Items

/-! # Which package has which item

A tree is read as a relation between paths and items. Making packages adds nothing to it, an
insertion adds one pair, and clearing takes away the pairs at and below its path. The two
yes-or-no questions about targets and files are questions about this relation.
-/
namespace BuildAtlas

namespace Package

theorem mem_addOnce {α : Type} [DecidableEq α] {items : List α} {a b : α} :
    b ∈ addOnce items a ↔ b ∈ items ∨ b = a := by
  unfold addOnce
  split
  · rename_i ha
    exact ⟨Or.inl, fun h => h.elim id fun he => he ▸ ha⟩
  · simp

end Package

namespace Item
variable {i j : Item} {p : Package} {path : PackagePath}

/-- The package lists the item. -/
def In : Item → Package → Prop
  | target t, p => t ∈ p.targets
  | file f, p => f ∈ p.files

theorem in_addTo : i.In (j.addTo p) ↔ i.In p ∨ i = j := by
  cases i <;> cases j <;>
    simp [In, addTo, add, Package.addTarget, Package.addFile, Package.mem_addOnce]

theorem not_in_fresh : ¬ i.In (Workspace.fresh path) := by
  cases i <;> simp [In, Workspace.fresh]

theorem not_in_emptied : ¬ i.In p.emptied := by
  cases i <;> simp [In, Package.emptied]

end Item

namespace Workspace
variable {w w' : Workspace} {i j : Item} {path base : PackagePath}

/-- The package at a path has the item. -/
def Has (w : Workspace) (path : PackagePath) (i : Item) : Prop :=
  ∃ p, w.contentAt path = some p ∧ i.In p

theorem not_has_empty : ¬ empty.Has path i := by
  rintro ⟨p, hp, hi⟩
  rw [contentAt_empty] at hp
  split at hp
  · cases hp
    cases i <;> simp [Item.In] at hi
  · cases hp

/-! ## Packages on the way -/

/-- A package made on the way to another one has no items. -/
theorem exists_in_or_fresh {content : Option Package} {c : Prop} [Decidable c] :
    (∃ p, content.or (if c then some (fresh path) else none) = some p ∧ i.In p) ↔
      ∃ p, content = some p ∧ i.In p := by
  cases content with
  | some p => simp
  | none =>
    by_cases hc : c
    · simp [hc, Item.not_in_fresh]
    · simp [hc]

theorem Forest.has_ensurePath (h : w.Forest []) (base : PackagePath) :
    (w.ensurePath base).2.Has path i ↔ w.Has path i := by
  rw [Has, (h.ensurePath base).contentAt_eq h find_nil]
  exact exists_in_or_fresh

/-! ## Inserting -/

theorem Forest.has_insert (h : w.Forest []) (j : Item) :
    (w.insert j).Has path i ↔ w.Has path i ∨ (i = j ∧ path = j.home) := by
  rw [Has, contentAt_insert h]
  generalize hc : (w.contentAt path).or
    (if path <+: j.home then some (fresh path) else none) = content
  have hbefore : (∃ p, content = some p ∧ i.In p) ↔ w.Has path i := by
    rw [← hc]
    exact exists_in_or_fresh
  rw [← hbefore]
  by_cases hpath : path = j.home
  · have hsome : ∃ p, content = some p := by
      rw [← hc, if_pos (hpath ▸ List.prefix_rfl)]
      cases w.contentAt path <;> exact ⟨_, rfl⟩
    obtain ⟨p, rfl⟩ := hsome
    simp [hpath, Item.in_addTo]
  · simp [hpath]

/-- A tree built from items alone has each of them at its home. -/
theorem has_insertAll (items : List Item) :
    (empty.insertAll items).Has path i ↔ i ∈ items ∧ i.home = path := by
  induction items using List.reverseRecOn with
  | nil => simp [insertAll, not_has_empty]
  | append_singleton items j ih =>
    rw [insertAll_concat, (forest_empty.insertAll items).has_insert, ih, List.mem_append,
      List.mem_singleton]
    constructor
    · rintro (⟨hi, hpath⟩ | ⟨rfl, rfl⟩)
      · exact ⟨Or.inl hi, hpath⟩
      · exact ⟨Or.inr rfl, rfl⟩
    · rintro ⟨hi | rfl, rfl⟩
      · exact Or.inl ⟨hi, rfl⟩
      · exact Or.inr ⟨rfl, rfl⟩

/-! ## Clearing -/

theorem Forest.has_clearBelow {text : String} (h : w.Forest [])
    (he : w.clearBelow text = .ok w') :
    w'.Has path i ↔ w.Has path i ∧ ¬ PackagePath.read text <+: path := by
  rw [Has, h.contentAt_clearBelow he, Has]
  by_cases hpath : path = PackagePath.read text
  · subst hpath
    simp only [if_true, List.prefix_rfl, not_true_eq_false, and_false, iff_false]
    rintro ⟨p, hp, hi⟩
    obtain ⟨q, _, rfl⟩ := Option.map_eq_some_iff.mp hp
    exact Item.not_in_emptied hi
  · by_cases hbelow : PackagePath.read text <+: path
    · simp [hpath, hbelow]
    · simp [hpath, hbelow]

end Workspace

/-! ## The questions -/

/-- In one package, targets with the same label have the same name. -/
theorem Target.label_eq_iff {t u : Target} (h : u.package = t.package) :
    u.label = t.label ↔ u.name = t.name := by
  simp [Target.label, h]

namespace Workspace
variable {w : Workspace} {P : Item → Prop} {t : Target} {f : SourceFile}

theorem declares_iff : w.declares t = true ↔
    ∃ u, w.Has t.package (.target u) ∧ u.label = t.label := by
  simp only [declares, Has, contentAt]
  cases w.nodeAt t.package with
  | none => simp
  | some n => simp [Item.In]

theorem holds_iff : w.holds f = true ↔
    ∃ g, w.Has f.owner (.file g) ∧ g.path = f.path := by
  simp only [holds, Has, contentAt]
  cases w.nodeAt f.owner with
  | none => simp
  | some n => simp [Item.In]

/-- Where items are at home and nowhere else, comparing labels compares packages and names. -/
theorem declares_iff_of_has (h : ∀ path i, w.Has path i ↔ P i ∧ i.home = path) :
    w.declares t = true ↔ ∃ u, P (.target u) ∧ u.package = t.package ∧ u.name = t.name := by
  rw [declares_iff]
  constructor
  · rintro ⟨u, hu, hlabel⟩
    obtain ⟨hu, hhome⟩ := (h _ _).mp hu
    exact ⟨u, hu, hhome, (Target.label_eq_iff hhome).mp hlabel⟩
  · rintro ⟨u, hu, hpackage, hname⟩
    exact ⟨u, (h _ _).mpr ⟨hu, hpackage⟩, (Target.label_eq_iff hpackage).mpr hname⟩

theorem holds_iff_of_has (h : ∀ path i, w.Has path i ↔ P i ∧ i.home = path) :
    w.holds f = true ↔ ∃ g, P (.file g) ∧ g.path = f.path ∧ g.owner = f.owner := by
  rw [holds_iff]
  constructor
  · rintro ⟨g, hg, hpath⟩
    obtain ⟨hg, hhome⟩ := (h _ _).mp hg
    exact ⟨g, hg, hpath, hhome⟩
  · rintro ⟨g, hg, hpath, howner⟩
    exact ⟨g, (h _ _).mpr ⟨hg, howner⟩, hpath⟩

end Workspace

end BuildAtlas
