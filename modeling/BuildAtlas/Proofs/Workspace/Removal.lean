import BuildAtlas.Proofs.Workspace.Erasure
import BuildAtlas.Proofs.Workspace.Walks

/-! # Clearing takes away a subtree and no more

The loop that frees the slots on a stack destroys the tree that it goes through, but no node is
needed again once it is freed. So it visits what a walk over the tree as it was would visit, the
child attached last first. What it visits is what stands below the cleared path: these slots go
onto the free list one after another, and all else stays in its slot and under its path.
-/
namespace BuildAtlas

/-- The other path goes on strictly below this one. -/
def PackagePath.Above (base path : PackagePath) : Prop := base <+: path ∧ path ≠ base

namespace Workspace
variable {w w' : Workspace} {stack stack' : List Slot} {s t : Slot} {n : Node}
  {base path : PackagePath} {text : String}

/-! ## Slots in use and free slots -/

theorem vacant_iff : w.Vacant s ↔ s < w.slots.size ∧ w.node? s = none := by
  by_cases hs : s < w.slots.size
  · simp [Vacant, node?, hs]
  · simp [Vacant, hs]

/-- Every slot is in use or free. -/
theorem FreeList.packageCount_add_length (h : w.FreeList) :
    w.packageCount + w.free.length = w.slots.size := by
  have hperm : w.free.Perm
      ((List.range w.slots.size).filter fun s => ¬ (w.node? s).isSome) := by
    refine (List.perm_ext_iff_of_nodup h.nodup (List.nodup_range.filter _)).mpr fun s => ?_
    rw [h.mem_iff, vacant_iff, List.mem_filter, List.mem_range]
    simp
  rw [packageCount_eq_countP, hperm.length_eq, ← List.countP_eq_length_filter,
    ← List.length_eq_countP_add_countP, List.length_range]

/-! ## The loop -/

theorem mem_children_of_pushed (n : Node) (s : Slot) (hs : s ∈ n.pushed) :
    ∃ name, (name, s) ∈ n.children := Node.mem_pushed.mp hs

/-- The loop walks over the tree as it was and frees each slot when it visits it. -/
theorem Frees.exists_walk (hf : Frees w stack w' stack') (h : w.Forest stack) :
    ∃ freed, w.Walks Node.pushed stack freed stack' ∧ w'.free = freed.reverse ++ w.free ∧
      w'.slots.size = w.slots.size ∧
      ∀ t, w'.node? t = if t ∈ freed then none else w.node? t := by
  induction hf with
  | refl => exact ⟨[], .refl, rfl, rfl, by simp⟩
  | skip hs _ _ => exact absurd hs h.top_live
  | @free w s n stack w' stack' hs _ ih =>
    obtain ⟨freed, hwalk, hfree, hsize, hnode⟩ := ih (h.freeSlot hs)
    have hsame : ∀ t ∈ freed, w.node? t = (w.freeSlot s).node? t := by
      intro t ht
      obtain ⟨m, hm⟩ := hwalk.live ht
      have hts : t ≠ s := by
        rintro rfl
        simp at hm
      rw [node?_freeSlot, if_neg hts]
    refine ⟨s :: freed, .visit hs (hwalk.congr hsame), ?_, ?_, fun t => ?_⟩
    · rw [hfree, free_freeSlot, List.reverse_cons, List.append_assoc, List.singleton_append]
    · rw [hsize, size_freeSlot]
    · rw [hnode, node?_freeSlot]
      by_cases ht : t = s <;> simp [ht]

/-! ## Clearing -/

/-- The slots below a node in the order in which they are freed: each before those below it, and
the child attached last before its siblings. -/
def slotsBelow (w : Workspace) (n : Node) : List Slot :=
  n.pushed.flatMap (w.walkFrom Node.pushed w.slots.size)

/-- All that clearing does below a path that leads to the node `n` in slot `s`. -/
structure Cleared (w : Workspace) (base : PackagePath) (s : Slot) (n : Node)
    (cleared : Workspace) : Prop where
  /-- The loop on the stack of the children comes to its end. -/
  ends : Frees (w.emptied s) n.pushed cleared []
  /-- What stood below the path is gone, and all else is found where it was. -/
  find_iff : ∀ path t, cleared.find path = some t ↔ w.find path = some t ∧ ¬ base.Above path
  node : cleared.node? s = some { n with package := n.package.emptied, children := [] }
  kept : ∀ t, t ≠ s → t ∉ w.slotsBelow n → cleared.node? t = w.node? t
  kept_path : ∀ t, t ∉ w.slotsBelow n → cleared.path? t = w.path? t
  /-- The freed slots are those that were found below the path, each of them once. -/
  mem_freed : ∀ t, t ∈ w.slotsBelow n ↔ ∃ path, base.Above path ∧ w.find path = some t
  freed_nodup : (w.slotsBelow n).Nodup
  vacant : ∀ t ∈ w.slotsBelow n, cleared.Vacant t
  /-- They are freed in the order of a walk that pushes children in their order. -/
  order : w.Walks Node.pushed n.pushed (w.slotsBelow n) []
  free : cleared.free = (w.slotsBelow n).reverse ++ w.free
  size : cleared.slots.size = w.slots.size
  count : cleared.packageCount + (w.slotsBelow n).length = w.packageCount

section cleared
variable (h : w.Forest []) (hs : w.find base = some s) (hn : w.node? s = some n)
include h hs hn

theorem Forest.walks_slotsBelow : w.Walks Node.pushed n.pushed (w.slotsBelow n) [] := by
  refine Walks.flatMap fun c hc => ?_
  obtain ⟨name, he⟩ := Node.mem_pushed.mp hc
  have hfound : w.find (base ++ [name]) = some c := h.find_concat_iff.mpr ⟨s, hs, n, hn, he⟩
  exact h.walks_walkFrom mem_children_of_pushed hfound (Nat.le_add_left _ _)

theorem Forest.find_released (path : PackagePath) (t : Slot) :
    ((w.emptied s).release n.pushed).find path = some t ↔
      w.find path = some t ∧ ¬ base.Above path := by
  rw [(frees_release _ _).find_eq (h.forest_emptied hn), h.find_emptied hs]
  by_cases hp : base <+: path ∧ path ≠ base
  · simp [PackagePath.Above, hp]
  · rw [if_neg hp]
    exact (and_iff_left hp).symm

/-- The loop frees the slots below the node in their order. -/
theorem Forest.released :
    ((w.emptied s).release n.pushed).free = (w.slotsBelow n).reverse ++ w.free ∧
      ((w.emptied s).release n.pushed).slots.size = w.slots.size ∧
      ∀ t, ((w.emptied s).release n.pushed).node? t =
        if t ∈ w.slotsBelow n then none else (w.emptied s).node? t := by
  obtain ⟨freed, hwalk, hfree, hsize, hnode⟩ :=
    (frees_release (w.emptied s) n.pushed).exists_walk (h.forest_emptied hn)
  have hbase : ((w.emptied s).release n.pushed).find base = some s :=
    (h.find_released hs hn base s).mpr ⟨hs, fun hb => hb.2 rfl⟩
  -- the emptied node itself is found at the end, so its lost children were never needed
  have hsame : ∀ t ∈ freed, w.node? t = (w.emptied s).node? t := by
    intro t ht
    have hts : t ≠ s := by
      rintro rfl
      obtain ⟨m, hm⟩ := (h.forest_emptied hn).release.find_live hbase
      simp [hnode, ht] at hm
    obtain ⟨m, hm⟩ := hwalk.live ht
    obtain ⟨k, hk⟩ := live_of_emptied hm
    rw [node?_emptied_of_live hk, if_neg hts, hk]
  obtain rfl := (hwalk.congr hsame).unique (h.walks_slotsBelow hs hn)
  refine ⟨?_, ?_, hnode⟩
  · rw [hfree, Workspace.emptied, free_modify]
  · rw [hsize, Workspace.emptied, size_modify]

theorem Forest.mem_slotsBelow :
    t ∈ w.slotsBelow n ↔ ∃ path, base.Above path ∧ w.find path = some t := by
  obtain ⟨_, _, hnode⟩ := h.released hs hn
  have hforest := (h.forest_emptied hn).release
  constructor
  · intro ht
    obtain ⟨m, hm⟩ := (h.walks_slotsBelow hs hn).live ht
    obtain ⟨path, hf⟩ := h.find_of_live hm
    refine ⟨path, Classical.byContradiction fun hb => ?_, hf⟩
    obtain ⟨k, hk⟩ := hforest.find_live ((h.find_released hs hn path t).mpr ⟨hf, hb⟩)
    simp [hnode, ht] at hk
  · rintro ⟨path, hb, hf⟩
    by_contra ht
    obtain ⟨m, hm⟩ := h.find_live hf
    have hlive : ((w.emptied s).release n.pushed).node? t = _ :=
      (hnode t).trans ((if_neg ht).trans (node?_emptied_of_live hm))
    -- a slot that is left is found, under the one path that it has
    obtain ⟨path', hf'⟩ := hforest.find_of_live hlive
    obtain ⟨hf', hb'⟩ := (h.find_released hs hn path' t).mp hf'
    exact hb' (h.find_inj hf hf' ▸ hb)

theorem Forest.cleared : w.Cleared base s n ((w.emptied s).release n.pushed) := by
  obtain ⟨hfree, hsize, hnode⟩ := h.released hs hn
  have hforest := (h.forest_emptied hn).release
  have hmem : ∀ t, t ∈ w.slotsBelow n ↔ ∃ path, base.Above path ∧ w.find path = some t :=
    fun t => h.mem_slotsBelow hs hn
  have hself : s ∉ w.slotsBelow n := by
    intro hs'
    obtain ⟨path, hb, hf⟩ := (hmem s).mp hs'
    exact hb.2 (h.find_inj hf hs)
  have hnodup : ((w.slotsBelow n).reverse ++ w.free).Nodup := hfree ▸ hforest.freeList.nodup
  refine
    { ends := frees_release _ _
      find_iff := h.find_released hs hn
      node := ?_
      kept := fun t hts ht => ?_
      kept_path := fun t ht => ?_
      mem_freed := hmem
      freed_nodup := List.nodup_reverse.mp (List.nodup_append.mp hnodup).1
      vacant := fun t ht => ?_
      order := h.walks_slotsBelow hs hn
      free := hfree
      size := hsize
      count := ?_ }
  · rw [hnode, if_neg hself, node?_emptied_of_live hn, if_pos rfl]
  · rw [hnode, if_neg ht, Workspace.emptied, node?_modify, if_neg hts]
  · refine Option.ext fun path => ?_
    rw [hforest.path?_eq_some_iff, h.path?_eq_some_iff, h.find_released hs hn]
    exact and_iff_left_of_imp fun hf hb => ht ((hmem t).mpr ⟨path, hb, hf⟩)
  · rw [← hforest.freeList.mem_iff, hfree]
    exact List.mem_append_left _ (List.mem_reverse.mpr ht)
  · have hafter := hforest.freeList.packageCount_add_length
    have hbefore := h.freeList.packageCount_add_length
    rw [hfree, hsize, List.length_append, List.length_reverse] at hafter
    omega

end cleared

/-- Clearing a path refuses one that leads nowhere and leaves the tree alone; otherwise it takes
away what stands below it. -/
structure Clears (w : Workspace) (text : String) : Prop where
  refused : w.find (.read text) = none →
    w.clearBelow text = .error (.unknownPath text) ∧ w.apply (.clearBelow text) = w
  cleared : ∀ s, w.find (.read text) = some s → ∃ n cleared, w.node? s = some n ∧
    w.clearBelow text = .ok cleared ∧ w.apply (.clearBelow text) = cleared ∧
    w.Cleared (.read text) s n cleared

theorem Forest.clears (h : w.Forest []) (text : String) : w.Clears text where
  refused hs := by
    have he := clearBelow_of_find_none hs
    exact ⟨he, by simp [Workspace.apply, he]⟩
  cleared s hs := by
    obtain ⟨n, hn⟩ := h.find_live hs
    have he := clearBelow_eq hs hn
    exact ⟨n, _, hn, he, by simp [Workspace.apply, he], h.cleared hs hn⟩

/-- After every history clearing takes away exactly the subtree below its path. -/
theorem run_clears (root : Package) (changes : List Change) (text : String) :
    ((withRoot root).run changes).Clears text := (forest_run root changes).clears text

-- the slots of `b`, `b/c` and `a`: the last child goes first, and `b` before what is below it
example :
    let w := empty.run [.ensurePath ["b", "c"], .ensurePath ["a"]]
    (w.node? rootSlot).map w.slotsBelow = some [3, 1, 2] := by decide

end Workspace

end BuildAtlas
