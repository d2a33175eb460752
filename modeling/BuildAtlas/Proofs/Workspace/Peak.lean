import BuildAtlas.Proofs.Workspace.Insertion
import BuildAtlas.Proofs.Workspace.Removal
import Mathlib.Order.Bounds.Basic

/-! # A tree has as many slots as it ever had packages

A new slot is made only when no slot is free, and then every slot is in use. So after one change
the slots are as many as before or as many as the packages now, whichever is more, and after a
history as many as there were packages when there were most. What stays within the paths that a
tree had, such as clearing parts of it and filling them again, never has more packages than that.
-/
namespace BuildAtlas.Workspace
variable {w u w' grown : Workspace} {s t parent : Slot} {p : Package} {path : PackagePath}
  {changes : List Change} {change : Change}

theorem run_concat (w : Workspace) (changes : List Change) (change : Change) :
    w.run (changes ++ [change]) = (w.run changes).apply change := List.foldl_concat ..

/-! ## One change -/

theorem FreeList.packageCount_le_size (h : w.FreeList) : w.packageCount ≤ w.slots.size :=
  Nat.le.intro h.packageCount_add_length

theorem Attached.packageCount_eq (h : w.FreeList) (hat : Attached w parent p s grown) :
    grown.packageCount = w.packageCount + 1 := by
  have hbefore := h.packageCount_add_length
  have hafter := hat.freeList.packageCount_add_length
  rcases hat.taken with ⟨htop, hsize⟩ | ⟨hnone, hnone', _, hsize⟩
  · rw [htop, List.length_cons] at hbefore
    omega
  · rw [hnone, List.length_nil] at hbefore
    rw [hnone', List.length_nil] at hafter
    omega

/-- Attaching makes a slot only if it then puts the last one to use. -/
theorem Attached.size_eq_max (h : w.FreeList) (hat : Attached w parent p s grown) :
    grown.slots.size = max w.slots.size grown.packageCount := by
  have hcount := hat.packageCount_eq h
  have hbefore := h.packageCount_add_length
  rcases hat.taken with ⟨htop, hsize⟩ | ⟨hnone, _, _, hsize⟩
  · rw [htop, List.length_cons] at hbefore
    omega
  · rw [hnone, List.length_nil] at hbefore
    omega

theorem Ensured.packageCount_le (hrun : Ensured w s path t w') (h : w.FreeList) :
    w.packageCount ≤ w'.packageCount := by
  induction hrun with
  | done => exact Nat.le_refl _
  | step _ _ ih => exact ih h
  | attach _ hat _ ih =>
    have hcount := hat.packageCount_eq h
    have hrest := ih hat.freeList
    omega

theorem Ensured.size_eq_max (hrun : Ensured w s path t w') (h : w.FreeList) :
    w'.slots.size = max w.slots.size w'.packageCount := by
  induction hrun with
  | done => exact (Nat.max_eq_left h.packageCount_le_size).symm
  | step _ _ ih => exact ih h
  | attach _ hat hrest ih =>
    -- the walk only adds packages, so the count at its end tells how many slots it took
    have hattached := hat.size_eq_max h
    have hcount := hrest.packageCount_le hat.freeList
    rw [ih hat.freeList, hattached]
    omega

theorem size_modifyPackage {f : Package → Package} :
    (w.modifyPackage s f).slots.size = w.slots.size := size_modify

theorem FreeList.packageCount_modifyPackage {f : Package → Package} (h : w.FreeList) :
    (w.modifyPackage s f).packageCount = w.packageCount := by
  have hbefore := h.packageCount_add_length
  have hmodified : (w.modifyPackage s f).FreeList := h.modify
  have hafter := hmodified.packageCount_add_length
  have hfree : (w.modifyPackage s f).free = w.free := free_modify
  rw [hfree, size_modifyPackage, ← hbefore] at hafter
  exact Nat.add_right_cancel hafter

/-- Where no slot is made there is nothing to show. -/
theorem FreeList.size_eq_max (h : u.FreeList) (hsize : u.slots.size = w.slots.size) :
    u.slots.size = max w.slots.size u.packageCount := by
  rw [← hsize, Nat.max_eq_left h.packageCount_le_size]

theorem Forest.size_insert (h : w.Forest []) (i : Item) :
    (w.insert i).slots.size = max w.slots.size (w.insert i).packageCount := by
  have hrun := h.ensurePath i.home
  rw [insert_eq, (h.ensured hrun).freeList.packageCount_modifyPackage, size_modifyPackage]
  exact hrun.size_eq_max h.freeList

/-- A change leaves as many slots as there were, or as many as there are packages now. -/
theorem Forest.size_apply (h : w.Forest []) (change : Change) :
    (w.apply change).slots.size = max w.slots.size (w.apply change).packageCount := by
  have hafter : (w.apply change).FreeList := (h.apply change).freeList
  cases change with
  | addChild parent p =>
    cases he : w.addChild parent p with
    | error _ => exact hafter.size_eq_max (by simp [Workspace.apply, he])
    | ok found => simpa [Workspace.apply, he] using (h.freeList.attached he).size_eq_max h.freeList
  | ensurePath path => exact (h.ensurePath path).size_eq_max h.freeList
  | insertTarget t => exact h.size_insert (.target t)
  | insertFile f => exact h.size_insert (.file f)
  | clearBelow text =>
    refine hafter.size_eq_max ?_
    cases hs : w.find (.read text) with
    | none => rw [((h.clears text).refused hs).2]
    | some s =>
      obtain ⟨n, cleared, _, _, heq, hc⟩ := (h.clears text).cleared s hs
      rw [heq, hc.size]
  | addTarget s t => exact hafter.size_eq_max size_modifyPackage
  | addFile s f => exact hafter.size_eq_max size_modifyPackage

/-! ## Within the paths of a tree -/

/-- Every package of the second tree stands at a path of the first one. -/
def Covers (w u : Workspace) : Prop := ∀ path s, u.find path = some s → ∃ t, w.find path = some t

theorem Covers.packageCount_le (hw : w.Forest []) (hu : u.Forest []) (h : w.Covers u) :
    u.packageCount ≤ w.packageCount := by
  rw [hu.packageCount_eq, hw.packageCount_eq]
  refine (List.subperm_of_subset hu.paths_nodup fun path hpath => ?_).length_le
  obtain ⟨s, hs⟩ := hu.mem_paths.mp hpath
  exact hw.mem_paths.mpr (h path s hs)

/-- A history that never leaves the paths of a tree makes no slot. -/
theorem Forest.size_run_of_covers (h : w.Forest [])
    (hin : ∀ before, before <+: changes → w.Covers (w.run before)) :
    (w.run changes).slots.size = w.slots.size := by
  induction changes using List.reverseRecOn with
  | nil => rfl
  | append_singleton changes change ih =>
    have hkept := ih fun before hp => hin before (hp.trans (List.prefix_append _ _))
    have hcount := (hin _ List.prefix_rfl).packageCount_le h (h.run _)
    have hfits := h.freeList.packageCount_le_size
    rw [run_concat] at hcount ⊢
    rw [(h.run changes).size_apply change, hkept]
    exact Nat.max_eq_left (hcount.trans hfits)

/-- The change clears, or it puts what it puts at a path of the tree. -/
def Refills (w : Workspace) : Change → Prop
  | .addChild _ _ => False
  | .ensurePath path => ∃ s, w.find path = some s
  | .insertTarget t => ∃ s, w.find t.package = some s
  | .insertFile f => ∃ s, w.find f.owner = some s
  | .clearBelow _ | .addTarget _ _ | .addFile _ _ => True

theorem Forest.exists_find_ensurePath_iff (h : u.Forest []) (base : PackagePath) :
    (∃ t, (u.ensurePath base).2.find path = some t) ↔
      (∃ t, u.find path = some t) ∨ path <+: base := by
  have hrun := h.ensurePath base
  rw [← (h.ensured hrun).contentAt_isSome_iff, ← h.contentAt_isSome_iff,
    hrun.contentAt_eq h find_nil, List.nil_append]
  by_cases hp : path <+: base <;> simp [hp]

theorem Covers.insert (h : w.Covers u) (hu : u.Forest []) {i : Item}
    (hi : ∃ s, w.find i.home = some s) : w.Covers (u.insert i) := by
  intro path s hs
  rw [← place_snd] at hs
  rcases (hu.exists_find_place_iff i path).mp ⟨s, hs⟩ with ⟨t, ht⟩ | hp
  · exact h path t ht
  · obtain ⟨s, hs⟩ := hi
    exact find_of_above hs hp

theorem Covers.modifyPackage (h : w.Covers u) (s : Slot) (f : Package → Package) :
    w.Covers (u.modifyPackage s f) := by
  intro path t ht
  have hfind : (u.modifyPackage s f).find path = u.find path := findFrom_modifyPackage
  exact h path t (hfind.symm.trans ht)

theorem Covers.apply (h : w.Covers u) (hu : u.Forest []) (hc : w.Refills change) :
    w.Covers (u.apply change) := by
  cases change with
  | addChild parent p => exact hc.elim
  | ensurePath base =>
    intro path s hs
    rcases (hu.exists_find_ensurePath_iff base).mp ⟨s, hs⟩ with ⟨t, ht⟩ | hp
    · exact h path t ht
    · obtain ⟨s, hs⟩ := hc
      exact find_of_above hs hp
  | insertTarget t => exact h.insert (i := .target t) hu hc
  | insertFile f => exact h.insert (i := .file f) hu hc
  | clearBelow text =>
    cases hs : u.find (.read text) with
    | none =>
      rw [((hu.clears text).refused hs).2]
      exact h
    | some s =>
      obtain ⟨n, cleared, _, _, heq, hcleared⟩ := (hu.clears text).cleared s hs
      intro path t ht
      rw [heq] at ht
      exact h path t ((hcleared.find_iff path t).mp ht).1
  | addTarget a t => exact h.modifyPackage a fun p => (p.addTarget t).2
  | addFile a f => exact h.modifyPackage a fun p => (p.addFile f).2

theorem Forest.covers_run (h : w.Forest []) (hc : ∀ change ∈ changes, w.Refills change) :
    w.Covers (w.run changes) := by
  induction changes using List.reverseRecOn with
  | nil => exact fun path s hs => ⟨s, hs⟩
  | append_singleton changes change ih =>
    have hbefore := ih fun c hmem => hc c (List.mem_append_left _ hmem)
    rw [run_concat]
    exact hbefore.apply (h.run changes) (hc change (by simp))

/-! ## A whole history -/

/-- The numbers of packages that a tree has had after each part of a history. -/
def counts (w : Workspace) (changes : List Change) : Set Nat :=
  {k | ∃ before, before <+: changes ∧ (w.run before).packageCount = k}

/-- How many slots a history leaves, and when it makes no more. -/
structure Peaked (w : Workspace) (changes : List Change) : Prop where
  peak : IsGreatest (w.counts changes) (w.run changes).slots.size
  balance : (w.run changes).slots.size =
    (w.run changes).packageCount + (w.run changes).free.length
  /-- Clearing and filling again what there was, as often as one likes, makes no slot, -/
  refilled : ∀ again, (∀ change ∈ again, (w.run changes).Refills change) →
    ((w.run changes).run again).slots.size = (w.run changes).slots.size
  /-- and neither does anything else that keeps to the paths that there were. -/
  covered : ∀ again,
    (∀ before, before <+: again → (w.run changes).Covers ((w.run changes).run before)) →
    ((w.run changes).run again).slots.size = (w.run changes).slots.size

theorem Forest.isGreatest_counts (h : w.Forest []) (hfull : w.slots.size = w.packageCount)
    (changes : List Change) : IsGreatest (w.counts changes) (w.run changes).slots.size := by
  induction changes using List.reverseRecOn with
  | nil =>
    refine ⟨⟨[], List.prefix_rfl, hfull.symm⟩, ?_⟩
    rintro k ⟨before, hp, rfl⟩
    obtain rfl := List.prefix_nil.mp hp
    exact h.freeList.packageCount_le_size
  | append_singleton changes change ih =>
    obtain ⟨⟨best, hbest, hcount⟩, hbound⟩ := ih
    have hsize := (h.run changes).size_apply change
    rw [← run_concat] at hsize
    constructor
    · rw [hsize]
      rcases Nat.le_total (w.run (changes ++ [change])).packageCount
        (w.run changes).slots.size with hle | hle
      · rw [Nat.max_eq_left hle]
        exact ⟨best, hbest.trans (List.prefix_append _ _), hcount⟩
      · rw [Nat.max_eq_right hle]
        exact ⟨_, List.prefix_rfl, rfl⟩
    · rintro k ⟨before, hp, rfl⟩
      rcases List.prefix_concat_iff.mp hp with rfl | hp
      · exact (h.run _).freeList.packageCount_le_size
      · have hle := hbound ⟨before, hp, rfl⟩
        omega

theorem size_withRoot (root : Package) :
    (withRoot root).slots.size = (withRoot root).packageCount := by
  simp [withRoot, packageCount]

/-- After every history of a new tree the slots are as many as there were packages at most, and
filling again what was cleared takes none but these. -/
theorem run_peaked (root : Package) (changes : List Change) : (withRoot root).Peaked changes where
  peak := (forest_withRoot root).isGreatest_counts (size_withRoot root) changes
  balance := (forest_run root changes).freeList.packageCount_add_length.symm
  refilled again hagain := by
    have h := forest_run root changes
    refine h.size_run_of_covers fun before hp => h.covers_run fun change hmem => ?_
    exact hagain change (hp.subset hmem)
  covered _ hin := (forest_run root changes).size_run_of_covers hin

-- four packages at most: two that were cleared and two others, one of them in a slot used again
example :
    let w := empty.run [.ensurePath ["a", "b"], .clearBelow "//a", .ensurePath ["c", "d"]]
    w.slots.size = 4 ∧ w.packageCount = 4 ∧
      (w.run [.clearBelow "/", .ensurePath ["c", "d"], .ensurePath ["a"]]).slots.size = 4 := by
  cbv

end BuildAtlas.Workspace
