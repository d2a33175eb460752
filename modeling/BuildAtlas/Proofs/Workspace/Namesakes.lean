import BuildAtlas.Proofs.Label.Path
import BuildAtlas.Proofs.Workspace.Survival

/-! # Targets that are written alike

Whether a target is declared is asked by comparing labels as they are written. With a colon in a
name or a segment, or a slash or nothing in a segment, two targets can be written alike, and then
the one is taken for the other. For that to happen a package has to be handed a target of another
path: where all targets are at home, a target that is declared is also listed.
-/
namespace BuildAtlas

namespace Target
variable {t u : Target}

/-- One text has both labels: it is cut at the same colon for both, or a part of it stands before
the colon in one and behind it in the other. -/
inductive WrittenAlike (t u : Target) : Prop
  | same : t.package.joined = u.package.joined → t.name = u.name → WrittenAlike t u
  | inName (part : String) : u.package.joined = t.package.joined ++ ":" ++ part →
      t.name = part ++ ":" ++ u.name → WrittenAlike t u
  | inPackage (part : String) : t.package.joined = u.package.joined ++ ":" ++ part →
      u.name = part ++ ":" ++ t.name → WrittenAlike t u

/-- The parts can be read back off the label. -/
structure Plain (t : Target) : Prop where
  package : t.package.Plain
  name : ':' ∉ t.name.toList

theorem label_toList (t : Target) :
    t.label.toList = '/' :: '/' :: (t.package.joined.toList ++ ':' :: t.name.toList) := by
  simp [label, PackagePath.render]

theorem WrittenAlike.symm (h : t.WrittenAlike u) : u.WrittenAlike t := by
  cases h with
  | same hpackage hname => exact .same hpackage.symm hname.symm
  | inName part hpackage hname => exact .inPackage part hpackage hname
  | inPackage part hpackage hname => exact .inName part hpackage hname

theorem WrittenAlike.label_eq (h : t.WrittenAlike u) : t.label = u.label := by
  cases h with
  | same hpackage hname => rw [label, label, PackagePath.render, PackagePath.render, hpackage, hname]
  | inName part hpackage hname =>
    simp only [label, PackagePath.render, hpackage, hname, String.append_assoc]
  | inPackage part hpackage hname =>
    simp only [label, PackagePath.render, hpackage, hname, String.append_assoc]

theorem writtenAlike_of_shift {shift : List Char}
    (hpackage : u.package.joined.toList = t.package.joined.toList ++ shift)
    (hname : ':' :: t.name.toList = shift ++ ':' :: u.name.toList) : t.WrittenAlike u := by
  -- what lies between the two cuts is nothing, or begins with the colon of the first
  cases shift with
  | nil =>
    rw [List.append_nil] at hpackage
    have hrest : t.name.toList = u.name.toList := (List.cons.inj hname).2
    exact .same (String.toList_injective hpackage).symm (String.toList_injective hrest)
  | cons c part =>
    obtain rfl : ':' = c := (List.cons.inj hname).1
    have hrest : t.name.toList = part ++ ':' :: u.name.toList := (List.cons.inj hname).2
    refine .inName (String.ofList part) (String.toList_injective ?_) (String.toList_injective ?_)
    · simp [hpackage]
    · simp [hrest]

theorem label_eq_iff_writtenAlike : t.label = u.label ↔ t.WrittenAlike u := by
  constructor
  · intro h
    have hl := congrArg String.toList h
    rw [label_toList, label_toList] at hl
    simp only [List.cons.injEq, true_and] at hl
    rcases List.append_eq_append_iff.mp hl with ⟨shift, hpackage, hname⟩ | ⟨shift, hpackage, hname⟩
    · exact writtenAlike_of_shift hpackage hname
    · exact (writtenAlike_of_shift hpackage hname).symm
  · rintro (⟨hpackage, hname⟩ | ⟨part, hpackage, hname⟩ | ⟨part, hpackage, hname⟩) <;>
      simp only [label, PackagePath.render, hpackage, hname, String.append_assoc]

theorem WrittenAlike.eq_of_plain (h : t.WrittenAlike u) (ht : t.Plain) (hu : u.Plain) :
    t.package = u.package ∧ t.name = u.name := by
  cases h with
  | same hpackage hname =>
    refine ⟨?_, hname⟩
    rw [← ht.package.read_joined, hpackage, hu.package.read_joined]
  | inName part hpackage hname => exact absurd (by simp [hname]) ht.name
  | inPackage part hpackage hname => exact absurd (by simp [hname]) hu.name

end Target

namespace Workspace
variable {w : Workspace} {t u : Target}

/-- The package at the target's path has a target of that path and name. -/
def Lists (w : Workspace) (t : Target) : Prop :=
  ∃ u, w.Has t.package (.target u) ∧ u.package = t.package ∧ u.name = t.name

/-- What it takes for a target to be declared, and when this is to be listed. -/
structure DeclaresByLabel (w : Workspace) (t : Target) : Prop where
  written : w.declares t = true ↔ ∃ u, w.Has t.package (.target u) ∧ u.WrittenAlike t
  listed : w.Lists t → w.declares t = true
  exactly : (w.declares t = true ↔ w.Lists t) ↔
    ((∃ u, w.Has t.package (.target u) ∧ u.WrittenAlike t) → w.Lists t)
  atHome : (∀ u, w.Has t.package (.target u) → u.package = t.package) →
    (w.declares t = true ↔ w.Lists t)
  plain : t.Plain → (∀ u, w.Has t.package (.target u) → u.Plain) →
    (w.declares t = true ↔ w.Lists t)

theorem declares_iff_writtenAlike :
    w.declares t = true ↔ ∃ u, w.Has t.package (.target u) ∧ u.WrittenAlike t := by
  rw [declares_iff]
  exact exists_congr fun u => and_congr_right fun _ => Target.label_eq_iff_writtenAlike

theorem declares_of_lists (h : w.Lists t) : w.declares t = true := by
  obtain ⟨u, hu, hpackage, hname⟩ := h
  exact declares_iff_writtenAlike.mpr ⟨u, hu, .same (congrArg _ hpackage) hname⟩

theorem declaresByLabel (w : Workspace) (t : Target) : w.DeclaresByLabel t where
  written := declares_iff_writtenAlike
  listed := declares_of_lists
  exactly := by
    rw [← declares_iff_writtenAlike]
    exact ⟨Iff.mp, fun h => ⟨h, declares_of_lists⟩⟩
  atHome hhome := by
    refine ⟨fun h => ?_, declares_of_lists⟩
    obtain ⟨u, hu, hlabel⟩ := declares_iff.mp h
    have hpackage := hhome u hu
    exact ⟨u, hu, hpackage, (Target.label_eq_iff hpackage).mp hlabel⟩
  plain ht hplain := by
    refine ⟨fun h => ?_, declares_of_lists⟩
    obtain ⟨u, hu, halike⟩ := declares_iff_writtenAlike.mp h
    obtain ⟨hpackage, hname⟩ := halike.eq_of_plain (hplain u hu) ht
    exact ⟨u, hu, hpackage, hname⟩

/-- In every tree a target is declared when its package has one that is written like it, and in a
tree that items are put into by their own paths alone it is listed then. -/
theorem run_declares_by_label (root : Package) (changes : List Change) (edits : List Edit)
    (t : Target) : ((withRoot root).run changes).DeclaresByLabel t ∧
      ((ofEdits edits).declares t = true ↔ (ofEdits edits).Lists t) := by
  refine ⟨declaresByLabel _ t, (declaresByLabel _ t).atHome fun u hu => ?_⟩
  exact ((has_ofEdits edits).mp hu).2

/-- The label of `c` in the package `a:b` is that of `b:c` in the package `a`. -/
theorem declares_namesake :
    ¬ ∀ root changes t, ((withRoot root).run changes).declares t = true ↔
      ((withRoot root).run changes).Lists t := by
  intro hlists
  let root : Package := { name := "/" }
  let changes : List Change := [.ensurePath ["a"], .addTarget 1 ⟨["a:b"], "c", "k"⟩]
  have hcontent : ((withRoot root).run changes).contentAt ["a"] =
      some { name := "a", targets := [⟨["a:b"], "c", "k"⟩] } := by decide +kernel
  have hdeclares : ((withRoot root).run changes).declares ⟨["a"], "b:c", "k"⟩ = true := by
    decide +kernel
  obtain ⟨u, ⟨p, hp, hu⟩, hpackage, -⟩ := (hlists root changes _).mp hdeclares
  obtain rfl := Option.some.inj (hcontent.symm.trans hp)
  obtain rfl := List.mem_singleton.mp hu
  revert hpackage
  decide +kernel

end Workspace

end BuildAtlas
