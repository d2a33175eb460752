import BuildAtlas.Label.Verdict
import BuildAtlas.Proofs.Workspace.Items
import BuildAtlas.Proofs.Workspace.Listing

/-! # Workspaces alike but for their order

Trees that were filled with the same items in different orders keep their packages in different
slots and list siblings and items in different orders. Nothing else tells them apart: questions
whose answer shows no order are answered alike, and lists come out in another order.
-/
namespace BuildAtlas

namespace Package

/-- A package whose items were added in another order. -/
structure Shuffled (p q : Package) : Prop where
  name : p.name = q.name
  targets : p.targets.Perm q.targets
  files : p.files.Perm q.files

theorem nodup_eraseDups {α : Type} [DecidableEq α] (xs : List α) : xs.eraseDups.Nodup := by
  induction xs using List.reverseRecOn with
  | nil => exact List.nodup_nil
  | append_singleton xs a ih =>
    rw [eraseDups_concat]
    by_cases ha : a ∈ xs.eraseDups
    · rw [addOnce_of_mem ha]
      exact ih
    · rw [addOnce_of_not_mem ha]
      exact List.concat_eq_append ▸ ih.concat ha

theorem eraseDups_perm {α : Type} [DecidableEq α] {xs ys : List α} (h : xs.Perm ys) :
    xs.eraseDups.Perm ys.eraseDups := by
  refine (List.perm_ext_iff_of_nodup (nodup_eraseDups xs) (nodup_eraseDups ys)).mpr ?_
  intro a
  rw [List.mem_eraseDups, List.mem_eraseDups, h.mem_iff]

end Package

namespace Workspace
variable {w w' : Workspace}

structure Shuffled (w w' : Workspace) : Prop where
  contentAt (path : PackagePath) :
    Option.Rel Package.Shuffled (w.contentAt path) (w'.contentAt path)
  namesAt (path : PackagePath) : (w.namesAt path).Perm (w'.namesAt path)

/-- The same fault, or the same list in another order. -/
inductive Reordered {α : Type} : Except Fault (List α) → Except Fault (List α) → Prop
  | listed {xs ys} : xs.Perm ys → Reordered (.ok xs) (.ok ys)
  | fault {f} : Reordered (.error f) (.error f)

/-- Every question about one tree is answered as it is about the other. -/
structure AnswersAlike (w w' : Workspace) : Prop where
  declares (t : Target) : w.declares t = w'.declares t
  holds (f : SourceFile) : w.holds f = w'.holds f
  check (current : PackagePath) (text : String) : w.check current text = w'.check current text
  buildFileOf (name : String) (f : SourceFile) : w.buildFileOf name f = w'.buildFileOf name f
  subpackagesAt (path : String) : Reordered (w.subpackagesAt path) (w'.subpackagesAt path)
  targetsAt (path : String) : Reordered (w.targetsAt path) (w'.targetsAt path)

/-! ## Answers by path -/

theorem declares_eq (w : Workspace) (t : Target) : w.declares t =
    ((w.contentAt t.package).map fun p => p.targets.any fun u => u.label == t.label).getD false := by
  rw [Workspace.declares, Workspace.contentAt]
  cases w.nodeAt t.package <;> rfl

theorem holds_eq (w : Workspace) (f : SourceFile) : w.holds f =
    ((w.contentAt f.owner).map fun p => p.files.any fun g => g.path == f.path).getD false := by
  rw [Workspace.holds, Workspace.contentAt]
  cases w.nodeAt f.owner <;> rfl

theorem targetsAt_eq (w : Workspace) (path : String) : w.targetsAt path =
    match w.contentAt (.read path) with
    | some p => .ok p.targets
    | none => .error (.unknownPath path) := by
  rw [Workspace.targetsAt, packageAt, Workspace.contentAt]
  cases w.nodeAt (.read path) <;> rfl

theorem Forest.subpackagesAt_eq (h : w.Forest []) (path : String) : w.subpackagesAt path =
    match w.contentAt (.read path) with
    | some _ => .ok ((w.namesAt (.read path)).map (childPrefix path ++ ·))
    | none => .error (.unknownPath path) := by
  rw [Workspace.contentAt, Workspace.namesAt]
  cases hn : w.nodeAt (.read path) with
  | none => simp [Workspace.subpackagesAt, hn]
  | some n => simp [h.subpackagesAt_of_nodeAt hn]

namespace Shuffled

theorem content_cases (hs : w.Shuffled w') (path : PackagePath) :
    (w.contentAt path = none ∧ w'.contentAt path = none) ∨
      ∃ p q, w.contentAt path = some p ∧ w'.contentAt path = some q ∧ p.Shuffled q := by
  have hrel := hs.contentAt path
  generalize w.contentAt path = content at hrel
  generalize w'.contentAt path = content' at hrel
  cases hrel with
  | none => exact Or.inl ⟨rfl, rfl⟩
  | some hp => exact Or.inr ⟨_, _, rfl, rfl, hp⟩

theorem paths_perm (hs : w.Shuffled w') (h : w.Forest []) (h' : w'.Forest []) :
    w.paths.Perm w'.paths := by
  refine (List.perm_ext_iff_of_nodup h.paths_nodup h'.paths_nodup).mpr ?_
  intro path
  rw [h.mem_paths, h'.mem_paths, ← h.contentAt_isSome_iff, ← h'.contentAt_isSome_iff]
  rcases hs.content_cases path with ⟨hp, hq⟩ | ⟨p, q, hp, hq, _⟩ <;> simp [hp, hq]

theorem packageCount_eq (hs : w.Shuffled w') (h : w.Forest []) (h' : w'.Forest []) :
    w.packageCount = w'.packageCount := by
  rw [h.packageCount_eq, h'.packageCount_eq]
  exact (hs.paths_perm h h').length_eq

theorem declares_eq (hs : w.Shuffled w') (t : Target) : w.declares t = w'.declares t := by
  rw [w.declares_eq, w'.declares_eq]
  rcases hs.content_cases t.package with ⟨hp, hq⟩ | ⟨p, q, hp, hq, hpq⟩
  · rw [hp, hq]
  · rw [hp, hq]
    exact hpq.targets.any_eq

theorem holds_eq (hs : w.Shuffled w') (f : SourceFile) : w.holds f = w'.holds f := by
  rw [w.holds_eq, w'.holds_eq]
  rcases hs.content_cases f.owner with ⟨hp, hq⟩ | ⟨p, q, hp, hq, hpq⟩
  · rw [hp, hq]
  · rw [hp, hq]
    exact hpq.files.any_eq

theorem check_eq (hs : w.Shuffled w') (current : PackagePath) (text : String) :
    w.check current text = w'.check current text := by
  simp only [check, judge, hs.declares_eq]

theorem targetsAt_reordered (hs : w.Shuffled w') (path : String) :
    Reordered (w.targetsAt path) (w'.targetsAt path) := by
  rw [w.targetsAt_eq, w'.targetsAt_eq]
  rcases hs.content_cases (.read path) with ⟨hp, hq⟩ | ⟨p, q, hp, hq, hpq⟩
  · rw [hp, hq]
    exact .fault
  · rw [hp, hq]
    exact .listed hpq.targets

theorem subpackagesAt_reordered (hs : w.Shuffled w') (h : w.Forest []) (h' : w'.Forest [])
    (path : String) : Reordered (w.subpackagesAt path) (w'.subpackagesAt path) := by
  have hnames := (hs.namesAt (.read path)).map (childPrefix path ++ ·)
  rw [h.subpackagesAt_eq, h'.subpackagesAt_eq]
  rcases hs.content_cases (.read path) with ⟨hp, hq⟩ | ⟨p, q, hp, hq, _⟩
  · rw [hp, hq]
    exact .fault
  · rw [hp, hq]
    exact .listed hnames

theorem answersAlike (hs : w.Shuffled w') (h : w.Forest []) (h' : w'.Forest []) :
    w.AnswersAlike w' where
  declares := hs.declares_eq
  holds := hs.holds_eq
  check := hs.check_eq
  buildFileOf name f := by rw [buildFileOf, buildFileOf, hs.holds_eq]
  subpackagesAt := hs.subpackagesAt_reordered h h'
  targetsAt := hs.targetsAt_reordered

end Shuffled

/-! ## Items in another order -/

section items
variable {items items' : List Item} (h : items.Perm items')
include h

theorem mentioned_perm {q : PackagePath} : Mentioned q items ↔ Mentioned q items' := by
  simp only [Mentioned, h.mem_iff]

theorem gather_perm (q : PackagePath) : (gather q items).Shuffled (gather q items') where
  name := rfl
  targets := Package.eraseDups_perm ((h.filterMap _).filter _)
  files := Package.eraseDups_perm ((h.filterMap _).filter _)

theorem shuffled_insertAll : (empty.insertAll items).Shuffled (empty.insertAll items') where
  contentAt q := by
    have hmentioned := mentioned_perm h (q := q)
    have hcontent := contentAt_insertAll items q
    have hcontent' := contentAt_insertAll items' q
    by_cases hm : Mentioned q items
    · rw [hcontent.1 hm, hcontent'.1 (hmentioned.mp hm)]
      exact .some (gather_perm h q)
    · rw [hcontent.2 hm, hcontent'.2 fun hm' => hm (hmentioned.mpr hm')]
      exact .none
  namesAt q := by
    rw [namesAt_insertAll, namesAt_insertAll]
    exact Package.eraseDups_perm ((h.map _).filterMap _)

end items

end Workspace

end BuildAtlas
