import BuildAtlas.Proofs.Workspace.Clearing
import BuildAtlas.Proofs.Workspace.Growth

/-! # Histories of a workspace

A history is any sequence of changes to a tree that starts with a root package alone. Slots in
it are arbitrary: they may be live, freed, used again or never made. After every history the
links of the tree are intact and none of the branches that its operations take to be
impossible can be taken.
-/
namespace BuildAtlas.Workspace

inductive Change where
  | addChild (parent : Slot) (p : Package)
  | ensurePath (path : PackagePath)
  | insertTarget (t : Target)
  | insertFile (f : SourceFile)
  | clearBelow (path : String)
  | addTarget (s : Slot) (t : Target)
  | addFile (s : Slot) (f : SourceFile)

/-- The tree after a change. A change that fails leaves the tree as it was. -/
def apply (w : Workspace) : Change → Workspace
  | .addChild parent p =>
    match w.addChild parent p with
    | .ok (_, grown) => grown
    | .error _ => w
  | .ensurePath path => (w.ensurePath path).2
  | .insertTarget t => (w.insertTarget t).2
  | .insertFile f => (w.insertFile f).2
  | .clearBelow path =>
    match w.clearBelow path with
    | .ok cleared => cleared
    | .error _ => w
  | .addTarget s t => w.modifyPackage s fun p => (p.addTarget t).2
  | .addFile s f => w.modifyPackage s fun p => (p.addFile f).2

def run (w : Workspace) (changes : List Change) : Workspace := changes.foldl apply w

theorem Forest.apply {w : Workspace} (h : w.Forest []) (change : Change) :
    (w.apply change).Forest [] := by
  cases change with
  | addChild parent p =>
    cases he : w.addChild parent p with
    | error _ => simpa [Workspace.apply, he] using h
    | ok found => simpa [Workspace.apply, he] using h.attached (h.freeList.attached he)
  | ensurePath path => exact h.ensured (h.ensurePath path)
  | insertTarget t => exact h.insertTarget t
  | insertFile f => exact h.insertFile f
  | clearBelow path =>
    cases he : w.clearBelow path with
    | error _ => simpa [Workspace.apply, he] using h
    | ok cleared => simpa [Workspace.apply, he] using h.clearBelow he
  | addTarget s t => exact h.modifyPackage (Package.name_addTarget t)
  | addFile s f => exact h.modifyPackage (Package.name_addFile f)

theorem Forest.run {w : Workspace} (h : w.Forest []) (changes : List Change) :
    (w.run changes).Forest [] := by
  induction changes generalizing w with
  | nil => exact h
  | cons change rest ih => exact ih (h.apply change)

/-- Every history leads to a forest without loose slots. -/
theorem forest_run (root : Package) (changes : List Change) :
    ((withRoot root).run changes).Forest [] :=
  (forest_withRoot root).run changes

/-- The children maps, the parent links and the free list tell the same story. -/
structure Intact (w : Workspace) : Prop where
  root : ∃ n, w.node? rootSlot = some n ∧ n.parent = none
  free_nodup : w.free.Nodup
  mem_free : ∀ s, s ∈ w.free ↔ w.slots[s]? = some none
  names_nodup : ∀ a n, w.node? a = some n → (n.children.map (·.1)).Nodup
  children : ∀ a n, w.node? a = some n → ∀ e ∈ n.children,
    ∃ m, w.node? e.2 = some m ∧ m.package.name = e.1 ∧ m.parent = some a
  held_once : ∀ s n, w.node? s = some n → s ≠ rootSlot →
    ∃ a k, w.node? a = some k ∧ (k.children.map (·.2)).count s = 1 ∧
      ∀ b m, w.node? b = some m → s ∈ m.children.map (·.2) → b = a
  reached : ∀ s n, w.node? s = some n → ∃ path, w.find path = some s

/-- The slots that a reader of the tree can come to have in hand. -/
inductive Handle (w : Workspace) : Slot → Prop
  | root : Handle w rootSlot
  | node {s n} : w.node? s = some n → Handle w s
  | parent {s n above} : Handle w s → w.node? s = some n → n.parent = some above → Handle w above
  | child {s name c} : Handle w s → w.child? s name = some c → Handle w c
  | children {s n e} : Handle w s → w.node? s = some n → e ∈ n.children → Handle w e.2

/-- No operation of the tree meets a slot that it takes to be impossible. -/
structure Unfailing (w : Workspace) : Prop where
  ensure : ∀ path, ∃ found, w.ensureFrom rootSlot path = .ok found
  handle : ∀ s, w.Handle s → ∃ n, w.node? s = some n
  reuse : ∀ s rest, w.free = s :: rest → s < w.slots.size
  clear : ∀ path s n, w.find (.read path) = some s → w.node? s = some n →
    (∃ cleared, w.clearBelow path = .ok cleared ∧ Frees (w.emptied s) n.pushed cleared []) ∧
    ∀ w' t stack, Frees (w.emptied s) n.pushed w' (t :: stack) → t < w'.slots.size

variable {w : Workspace} {s : Slot}

/-! ## Every forest is intact -/

theorem Forest.intact (h : w.Forest []) : w.Intact where
  root := h.root
  free_nodup := h.freeList.nodup
  mem_free := h.freeList.mem_iff
  names_nodup := h.names
  children a n hn e he := h.child ⟨n, hn, he⟩
  held_once s n hn hs := by
    obtain ⟨a, _, k, hk, he⟩ := h.holds_of_live hn hs List.not_mem_nil
    refine ⟨a, k, hk, ?_, fun b m hm hb => ?_⟩
    · exact List.count_eq_one_of_mem (h.children_nodup hk)
        (List.mem_map_of_mem (f := (·.2)) he)
    · obtain ⟨⟨name, s'⟩, hmem, rfl⟩ := List.mem_map.mp hb
      exact (h.holds_unique ⟨m, hm, hmem⟩ ⟨k, hk, he⟩).1
  reached s n hn := h.find_of_live hn

/-! ## No forest fails -/

theorem Forest.handle_live (h : w.Forest []) (hs : w.Handle s) : ∃ n, w.node? s = some n := by
  induction hs with
  | root => exact h.root_live
  | node hn => exact ⟨_, hn⟩
  | @parent s n above _ hn hparent _ =>
    have hs : s ≠ rootSlot := by
      rintro rfl
      obtain ⟨r, hr, hnone⟩ := h.root
      obtain rfl : n = r := Option.some.inj (hn.symm.trans hr)
      simp [hnone] at hparent
    obtain ⟨a, ha, k, hk, _⟩ := h.holds_of_live hn hs List.not_mem_nil
    obtain rfl : a = above := Option.some.inj (ha.symm.trans hparent)
    exact ⟨k, hk⟩
  | child _ hc _ => exact h.holds_live (holds_of_child? hc)
  | children _ hn he _ => exact h.holds_live ⟨_, hn, he⟩

theorem Forest.unfailing (h : w.Forest []) : w.Unfailing where
  ensure path := by
    obtain ⟨t, w', he, _⟩ := h.exists_ensured h.root_live path
    exact ⟨(t, w'), he⟩
  handle s hs := h.handle_live hs
  reuse s rest hf := ((h.freeList.mem_iff s).mp (by simp [hf])).lt_size
  clear path s n hs hn := by
    refine ⟨⟨_, clearBelow_eq hs hn, frees_release _ _⟩, fun w' t stack hf => ?_⟩
    obtain ⟨m, hm, _⟩ := (hf.forest (h.forest_emptied hn)).loose_live t List.mem_cons_self
    exact lt_size_of_node? hm

/-- After every history the links are intact and no operation can fail where it takes failure
to be impossible. -/
theorem run_intact_unfailing (root : Package) (changes : List Change) :
    ((withRoot root).run changes).Intact ∧ ((withRoot root).run changes).Unfailing :=
  ⟨(forest_run root changes).intact, (forest_run root changes).unfailing⟩

end BuildAtlas.Workspace
