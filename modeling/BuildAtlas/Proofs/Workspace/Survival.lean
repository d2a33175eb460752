import BuildAtlas.Proofs.Workspace.Histories
import BuildAtlas.Proofs.Workspace.Membership

/-! # What survives a history

Items go into a tree, packages are made, and parts of the tree are cleared, in any order. At
the end the tree has at each path just the items at home there that were inserted and not
cleared away since; slots that were freed and used again in between leave no trace.
-/
namespace BuildAtlas

/-- A change that works by path alone. -/
inductive Edit where
  | insert (i : Item)
  | ensure (path : PackagePath)
  | clear (path : String)

def Edit.change : Edit → Workspace.Change
  | insert (.target t) => .insertTarget t
  | insert (.file f) => .insertFile f
  | ensure path => .ensurePath path
  | clear path => .clearBelow path

namespace Workspace
variable {w : Workspace} {edits : List Edit} {e : Edit} {i : Item} {path : PackagePath}

/-- The tree after edits of the empty one. -/
def ofEdits (edits : List Edit) : Workspace := empty.run (edits.map Edit.change)

/-- An edit of the tree takes an item away when it clears a path to the item's home, and the
path is there to be cleared. -/
def TakesAway (w : Workspace) (e : Edit) (i : Item) : Prop :=
  ∃ text, e = .clear text ∧ (∃ cleared, w.clearBelow text = .ok cleared) ∧
    PackagePath.read text <+: i.home

/-- Some insertion of the item is followed by no edit that takes the item away. -/
def Survives (edits : List Edit) (i : Item) : Prop :=
  ∃ before after, edits = before ++ .insert i :: after ∧
    ∀ mid e rest, after = mid ++ e :: rest →
      ¬ (ofEdits (before ++ .insert i :: mid)).TakesAway e i

theorem ofEdits_concat (edits : List Edit) (e : Edit) :
    ofEdits (edits ++ [e]) = (ofEdits edits).apply e.change := by
  simp [ofEdits, run]

theorem forest_ofEdits (edits : List Edit) : (ofEdits edits).Forest [] :=
  forest_empty.run _

theorem not_survives_nil : ¬ Survives [] i := by
  rintro ⟨before, after, he, _⟩
  simp at he

/-- One more edit: it inserts the item, or the item has survived so far and still does. -/
theorem survives_concat : Survives (edits ++ [e]) i ↔
    e = .insert i ∨ (Survives edits i ∧ ¬ (ofEdits edits).TakesAway e i) := by
  constructor
  · rintro ⟨before, after, he, hkept⟩
    rcases List.eq_nil_or_concat after with rfl | ⟨after, last, rfl⟩
    · exact Or.inl (List.singleton_inj.mp (List.append_inj' he rfl).2)
    · rw [List.concat_eq_append] at he hkept
      obtain ⟨rfl, hlast⟩ : edits = before ++ .insert i :: after ∧ [e] = [last] := by
        refine List.append_inj' ?_ rfl
        rw [he, List.append_assoc, List.cons_append]
      obtain rfl : e = last := List.singleton_inj.mp hlast
      refine Or.inr ⟨⟨before, after, rfl, fun mid d rest hmid => ?_⟩, hkept after e [] rfl⟩
      exact hkept mid d (rest ++ [e]) (by simp [hmid])
  · rintro (rfl | ⟨⟨before, after, rfl, hkept⟩, hlast⟩)
    · exact ⟨edits, [], rfl, fun mid d rest hmid => by simp at hmid⟩
    · refine ⟨before, after ++ [e], by simp, fun mid d rest hmid => ?_⟩
      rcases List.eq_nil_or_concat rest with rfl | ⟨rest, last, rfl⟩
      · obtain ⟨rfl, hd⟩ := List.append_inj' hmid rfl
        obtain rfl : e = d := List.singleton_inj.mp hd
        exact hlast
      · rw [List.concat_eq_append, ← List.cons_append, ← List.append_assoc] at hmid
        exact hkept mid d rest (List.append_inj' hmid rfl).1

/-! ## One edit -/

theorem apply_insert (w : Workspace) (i : Item) :
    w.apply (Edit.insert i).change = w.insert i := by
  cases i <;> rfl

/-- What the package at a path has after an edit. -/
theorem Forest.has_apply (h : w.Forest []) :
    (w.apply e.change).Has path i ↔
      (e = .insert i ∧ path = i.home) ∨
        (w.Has path i ∧ ∀ text, e = .clear text → (∃ cleared, w.clearBelow text = .ok cleared) →
          ¬ PackagePath.read text <+: path) := by
  cases e with
  | insert j =>
    rw [apply_insert, h.has_insert]
    constructor
    · rintro (hi | ⟨rfl, hpath⟩)
      · exact Or.inr ⟨hi, fun text he => by cases he⟩
      · exact Or.inl ⟨rfl, hpath⟩
    · rintro (⟨he, hpath⟩ | ⟨hi, _⟩)
      · cases he
        exact Or.inr ⟨rfl, hpath⟩
      · exact Or.inl hi
  | ensure base =>
    have hsame : (w.apply (Edit.ensure base).change).Has path i ↔ w.Has path i :=
      h.has_ensurePath base
    simp [hsame]
  | clear text =>
    cases hc : w.clearBelow text with
    | error fault =>
      have hsame : w.apply (Edit.clear text).change = w := by
        simp [Edit.change, Workspace.apply, hc]
      rw [hsame]
      simp [hc]
    | ok cleared =>
      have hnew : w.apply (Edit.clear text).change = cleared := by
        simp [Edit.change, Workspace.apply, hc]
      rw [hnew, h.has_clearBelow hc]
      simp [hc]

/-! ## All edits -/

/-- The tree has at a path the surviving items that are at home there. -/
theorem has_ofEdits (edits : List Edit) :
    (ofEdits edits).Has path i ↔ Survives edits i ∧ i.home = path := by
  induction edits using List.reverseRecOn with
  | nil => exact iff_of_false not_has_empty fun h => not_survives_nil h.1
  | append_singleton edits e ih =>
    rw [ofEdits_concat, (forest_ofEdits edits).has_apply, survives_concat, ih]
    have htaken : i.home = path → ((ofEdits edits).TakesAway e i ↔ ∃ text, e = .clear text ∧
        (∃ cleared, (ofEdits edits).clearBelow text = .ok cleared) ∧
        PackagePath.read text <+: path) := by
      rintro rfl
      exact Iff.rfl
    constructor
    · rintro (⟨he, rfl⟩ | ⟨⟨hi, hhome⟩, hkept⟩)
      · exact ⟨Or.inl he, rfl⟩
      · refine ⟨Or.inr ⟨hi, fun ht => ?_⟩, hhome⟩
        obtain ⟨text, he, hok, hpre⟩ := (htaken hhome).mp ht
        exact hkept text he hok hpre
    · rintro ⟨he | ⟨hi, hkept⟩, hhome⟩
      · exact Or.inl ⟨he, hhome.symm⟩
      · refine Or.inr ⟨⟨hi, hhome⟩, fun text he hok hpre => ?_⟩
        exact hkept ((htaken hhome).mpr ⟨text, he, hok, hpre⟩)

/-- A target is declared when one of its package and its name survives, of whatever kind; a
file is held when one of its path and its owner does. -/
theorem lookups_find_survivors (edits : List Edit) :
    (∀ t, (ofEdits edits).declares t = true ↔
      ∃ u, Survives edits (.target u) ∧ u.package = t.package ∧ u.name = t.name) ∧
    ∀ f, (ofEdits edits).holds f = true ↔
      ∃ g, Survives edits (.file g) ∧ g.path = f.path ∧ g.owner = f.owner :=
  have hhas : ∀ path i, (ofEdits edits).Has path i ↔ Survives edits i ∧ i.home = path :=
    fun _ _ => has_ofEdits edits
  ⟨fun _ => declares_iff_of_has hhas, fun _ => holds_iff_of_has hhas⟩

end Workspace

end BuildAtlas
