import Mathlib.Data.List.Nodup
import BuildAtlas.Proofs.Workspace.Links

/-! # The tree as a forest of linked slots

A workspace is a forest when its children maps, parent links and free list agree and every
live slot is reached from the root or from a loose slot, one that no node holds. Attaching
keeps a forest. Clearing first cuts the children of a node loose; the loose slots are then the
stack of the loop that frees them, and each turn of that loop keeps a forest.
-/
namespace BuildAtlas.Workspace
variable {w w' : Workspace} {loose : List Slot} {a b s t parent : Slot} {name : String}
  {p : Package} {n : Node}

structure Forest (w : Workspace) (loose : List Slot) : Prop where
  freeList : w.FreeList
  names : w.NamesNodup
  root : ∃ n, w.node? rootSlot = some n ∧ n.parent = none
  child : ∀ {a name b}, w.Holds a name b →
    ∃ m, w.node? b = some m ∧ m.package.name = name ∧ m.parent = some a
  loose_nodup : loose.Nodup
  loose_live : ∀ s ∈ loose, ∃ n, w.node? s = some n ∧ n.parent ≠ none
  loose_top : ∀ s ∈ loose, ∀ a name, ¬ w.Holds a name s
  reach : ∀ s n, w.node? s = some n →
    ∃ top, (top = rootSlot ∨ top ∈ loose) ∧ ∃ path, w.findFrom top path = some s

theorem forest_withRoot (root : Package) : (withRoot root).Forest [] where
  freeList := freeList_withRoot root
  names a n hn := by
    have hn' : n.children = [] := by
      rw [node?_withRoot] at hn
      split at hn <;> cases hn
      rfl
    simp [hn']
  root := ⟨_, by rw [node?_withRoot, if_pos rfl], rfl⟩
  child := by
    rintro a name b ⟨n, hn, he⟩
    rw [node?_withRoot] at hn
    split at hn <;> cases hn
    simp at he
  loose_nodup := List.nodup_nil
  loose_live := by simp
  loose_top := by simp
  reach s n hn := by
    rw [node?_withRoot] at hn
    split at hn <;> cases hn
    exact ⟨rootSlot, Or.inl rfl, [], by simp [*]⟩

namespace Forest

/-- The parent link of a child names the one node that holds it. -/
theorem holds_unique (h : w.Forest loose) {name' : String} (ha : w.Holds a name s)
    (hb : w.Holds b name' s) : a = b ∧ name = name' := by
  obtain ⟨m, hm, hname, hparent⟩ := h.child ha
  obtain ⟨m', hm', hname', hparent'⟩ := h.child hb
  obtain rfl : m = m' := Option.some.inj (hm.symm.trans hm')
  exact ⟨Option.some.inj (hparent.symm.trans hparent'), hname.symm.trans hname'⟩

theorem not_holds_root (h : w.Forest loose) : ¬ w.Holds a name rootSlot := by
  intro ha
  obtain ⟨n, hn, hnone⟩ := h.root
  obtain ⟨m, hm, _, hparent⟩ := h.child ha
  obtain rfl : n = m := Option.some.inj (hn.symm.trans hm)
  simp [hnone] at hparent

theorem loose_ne_root (h : w.Forest loose) (hs : s ∈ loose) : s ≠ rootSlot := by
  rintro rfl
  obtain ⟨n, hn, hnone⟩ := h.root
  obtain ⟨m, hm, hparent⟩ := h.loose_live _ hs
  obtain rfl : n = m := Option.some.inj (hn.symm.trans hm)
  exact hparent hnone

/-- The children of a node are different slots. -/
theorem children_nodup (h : w.Forest loose) (hn : w.node? a = some n) :
    (n.children.map (·.2)).Nodup := by
  refine List.Nodup.map_on ?_ (h.names a n hn).of_map
  rintro ⟨name, s⟩ he ⟨name', s'⟩ he' hs
  obtain rfl : s = s' := hs
  obtain ⟨_, rfl⟩ := h.holds_unique ⟨n, hn, he⟩ ⟨n, hn, he'⟩
  rfl

/-- Below a live slot everything found is live. -/
theorem findFrom_live (h : w.Forest loose) {path : PackagePath} (ha : ∃ n, w.node? a = some n)
    (hf : w.findFrom a path = some b) : ∃ n, w.node? b = some n := by
  induction path generalizing a with
  | nil =>
    cases hf
    exact ha
  | cons name path ih =>
    obtain ⟨c, hc, hrest⟩ := Option.bind_eq_some_iff.mp hf
    obtain ⟨m, hm, _⟩ := h.child (holds_of_child? hc)
    exact ih ⟨m, hm⟩ hrest

/-! ## Attaching -/

theorem attached {grown : Workspace} (h : w.Forest loose) (hat : Attached w parent p s grown) :
    grown.Forest loose where
  freeList := hat.freeList
  names := hat.namesNodup h.names
  root := by
    obtain ⟨n, hn, hnone⟩ := h.root
    exact ⟨_, hat.node?_of_live hn, hnone⟩
  child := by
    intro a name b hab
    rcases hat.holds_iff.mp hab with hab | ⟨rfl, rfl, rfl⟩
    · obtain ⟨m, hm, hname, hparent⟩ := h.child hab
      exact ⟨_, hat.node?_of_live hm, hname, hparent⟩
    · exact ⟨_, hat.node, rfl, rfl⟩
  loose_nodup := h.loose_nodup
  loose_live t ht := by
    obtain ⟨n, hn, hparent⟩ := h.loose_live t ht
    exact ⟨_, hat.node?_of_live hn, hparent⟩
  loose_top t ht a name hab := by
    rcases hat.holds_iff.mp hab with hab | ⟨_, _, rfl⟩
    · exact h.loose_top t ht a name hab
    · obtain ⟨n, hn, _⟩ := h.loose_live t ht
      simp [hat.fresh] at hn
  reach t m hm := by
    rcases hat.live_cases hm with ⟨rfl, _⟩ | ⟨n, hn, _⟩
    · obtain ⟨above, habove, _⟩ := hat.parent_live
      obtain ⟨top, htop, path, hf⟩ := h.reach parent above habove
      refine ⟨top, htop, path ++ [p.name], ?_⟩
      rw [findFrom_concat, hat.findFrom_eq_some hf]
      simp [hat.child?_eq]
    · obtain ⟨top, htop, path, hf⟩ := h.reach t n hn
      exact ⟨top, htop, path, hat.findFrom_eq_some hf⟩

/-! ## Changing packages -/

/-- Packages may change as long as they keep their names. -/
theorem modifyPackage {f : Package → Package} (h : w.Forest loose)
    (hf : ∀ p, (f p).name = p.name) : (w.modifyPackage s f).Forest loose where
  freeList := h.freeList.modify
  names a m hm := by
    rw [node?_modifyPackage] at hm
    obtain ⟨n, hn, rfl⟩ := Option.map_eq_some_iff.mp hm
    exact h.names a n hn
  root := by
    obtain ⟨n, hn, hnone⟩ := h.root
    exact ⟨_, node?_modifyPackage_of_live hn, hnone⟩
  child := by
    intro a name b hab
    obtain ⟨m, hm, rfl, hparent⟩ := h.child (holds_modifyPackage.mp hab)
    refine ⟨_, node?_modifyPackage_of_live hm, ?_, hparent⟩
    by_cases hb : b = s
    · simp only [if_pos hb, hf]
    · simp only [if_neg hb]
  loose_nodup := h.loose_nodup
  loose_live t ht := by
    obtain ⟨n, hn, hparent⟩ := h.loose_live t ht
    exact ⟨_, node?_modifyPackage_of_live hn, hparent⟩
  loose_top t ht a name hab := h.loose_top t ht a name (holds_modifyPackage.mp hab)
  reach t m hm := by
    rw [node?_modifyPackage] at hm
    obtain ⟨n, hn, _⟩ := Option.map_eq_some_iff.mp hm
    simpa using h.reach t n hn

end Forest

end BuildAtlas.Workspace
