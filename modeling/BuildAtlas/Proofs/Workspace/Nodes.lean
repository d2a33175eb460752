import BuildAtlas.Workspace.Basic

/-! # The node in a slot after an operation

The slots of a workspace are read through `node?` and the empty ones through `Vacant`. Every
operation is described here by what it does to these two, so that nothing after this module
looks at the array of slots.
-/
namespace BuildAtlas.Workspace
variable {w : Workspace} {s t : Slot}

/-- A slot that was made once and holds no node now. -/
def Vacant (w : Workspace) (s : Slot) : Prop := w.slots[s]? = some none

theorem node?_eq_some_iff {n : Node} : w.node? s = some n ↔ w.slots[s]? = some (some n) :=
  Option.join_eq_some_iff

theorem lt_size_of_node? {n : Node} (h : w.node? s = some n) : s < w.slots.size :=
  (Array.getElem?_eq_some_iff.mp (node?_eq_some_iff.mp h)).1

theorem Vacant.lt_size (h : w.Vacant s) : s < w.slots.size :=
  (Array.getElem?_eq_some_iff.mp h).1

theorem Vacant.node? (h : w.Vacant s) : w.node? s = none := by
  simp [Workspace.node?, show w.slots[s]? = some none from h]

@[simp] theorem node?_withRoot {root : Package} :
    (withRoot root).node? s = if s = rootSlot then some ⟨root, none, []⟩ else none := by
  cases s <;> simp [withRoot, node?, rootSlot]

theorem not_vacant_withRoot {root : Package} : ¬ (withRoot root).Vacant s := by
  cases s <;> simp [withRoot, Vacant]

/-! ## Changing a node -/

@[simp] theorem node?_modify {f : Node → Node} :
    (w.modify s f).node? t = if t = s then (w.node? s).map f else w.node? t := by
  unfold modify
  cases hn : w.node? s with
  | none => by_cases h : t = s <;> simp [h, hn]
  | some n =>
    have hs := lt_size_of_node? hn
    by_cases h : t = s
    · simp [node?, h, hs]
    · simp [node?, h, Array.getElem?_setIfInBounds_ne (Ne.symm h)]

@[simp] theorem vacant_modify {f : Node → Node} : (w.modify s f).Vacant t ↔ w.Vacant t := by
  unfold modify
  cases hn : w.node? s with
  | none => rfl
  | some n =>
    have hs := node?_eq_some_iff.mp hn
    by_cases h : t = s
    · subst h
      simp [Vacant, hs, Array.getElem?_setIfInBounds_self_of_lt (lt_size_of_node? hn)]
    · simp [Vacant, Array.getElem?_setIfInBounds_ne (Ne.symm h)]

@[simp] theorem free_modify {f : Node → Node} : (w.modify s f).free = w.free := by
  unfold modify
  cases w.node? s <;> rfl

@[simp] theorem size_modify {f : Node → Node} : (w.modify s f).slots.size = w.slots.size := by
  unfold modify
  cases w.node? s <;> simp

theorem node?_modifyPackage {f : Package → Package} :
    (w.modifyPackage s f).node? t =
      (w.node? t).map fun n => { n with package := if t = s then f n.package else n.package } := by
  by_cases h : t = s <;> simp [modifyPackage, h]

theorem node?_modifyPackage_of_live {f : Package → Package} {n : Node} (hn : w.node? t = some n) :
    (w.modifyPackage s f).node? t =
      some { n with package := if t = s then f n.package else n.package } := by
  rw [node?_modifyPackage, hn, Option.map_some]

/-! ## The free list -/

/-- The free list has each empty slot once and nothing else. -/
structure FreeList (w : Workspace) : Prop where
  nodup : w.free.Nodup
  mem_iff : ∀ s, s ∈ w.free ↔ w.Vacant s

theorem freeList_withRoot (root : Package) : (withRoot root).FreeList where
  nodup := List.nodup_nil
  mem_iff s := ⟨fun h => by simp [withRoot] at h, fun h => absurd h not_vacant_withRoot⟩

theorem FreeList.modify {f : Node → Node} (h : w.FreeList) : (w.modify s f).FreeList where
  nodup := by simpa using h.nodup
  mem_iff t := by simpa using h.mem_iff t

@[simp] theorem free_freeSlot : (w.freeSlot s).free = s :: w.free := rfl

@[simp] theorem size_freeSlot : (w.freeSlot s).slots.size = w.slots.size := by simp [freeSlot]

@[simp] theorem node?_freeSlot :
    (w.freeSlot s).node? t = if t = s then none else w.node? t := by
  by_cases h : t = s
  · subst h
    by_cases hs : t < w.slots.size <;> simp [freeSlot, node?, hs]
  · simp [freeSlot, node?, h, Array.getElem?_setIfInBounds_ne (Ne.symm h)]

theorem vacant_freeSlot {n : Node} (hs : w.node? s = some n) :
    (w.freeSlot s).Vacant t ↔ t = s ∨ w.Vacant t := by
  by_cases h : t = s
  · simp [freeSlot, Vacant, h, lt_size_of_node? hs]
  · simp [freeSlot, Vacant, h, Array.getElem?_setIfInBounds_ne (Ne.symm h)]

theorem FreeList.freeSlot {n : Node} (h : w.FreeList) (hs : w.node? s = some n) :
    (w.freeSlot s).FreeList where
  nodup := by
    refine List.nodup_cons.mpr ⟨fun hm => ?_, h.nodup⟩
    have hv := ((h.mem_iff s).mp hm).node?
    simp [hs] at hv
  mem_iff t := by simp [vacant_freeSlot hs, h.mem_iff]

/-! ## Growing -/

/-- The slot for a new node was not live before. -/
theorem FreeList.node?_allocate_slot (h : w.FreeList) (n : Node) :
    w.node? (w.allocate n).1 = none := by
  unfold allocate
  cases hf : w.free with
  | nil => simp [node?]
  | cons s rest => exact ((h.mem_iff s).mp (by simp [hf])).node?

theorem FreeList.node?_allocate (h : w.FreeList) (n : Node) :
    (w.allocate n).2.node? t = if t = (w.allocate n).1 then some n else w.node? t := by
  unfold allocate
  cases hf : w.free with
  | nil => by_cases ht : t = w.slots.size <;> simp [node?, Array.getElem?_push, ht]
  | cons s rest =>
    have hs := ((h.mem_iff s).mp (by simp [hf])).lt_size
    by_cases ht : t = s
    · simp [node?, ht, hs]
    · simp [node?, ht, Array.getElem?_setIfInBounds_ne (Ne.symm ht)]

theorem FreeList.allocate (h : w.FreeList) (n : Node) : (w.allocate n).2.FreeList := by
  unfold Workspace.allocate
  cases hf : w.free with
  | nil =>
    refine ⟨List.nodup_nil, fun t => ?_⟩
    have ht := h.mem_iff t
    rw [hf] at ht
    by_cases he : t = w.slots.size
    · simp [Vacant, he]
    · simpa [Vacant, Array.getElem?_push, he] using ht
  | cons s rest =>
    have hn := h.nodup
    rw [hf] at hn
    obtain ⟨hs, hrest⟩ := List.nodup_cons.mp hn
    refine ⟨hrest, fun t => ?_⟩
    have ht := h.mem_iff t
    rw [hf] at ht
    by_cases he : t = s
    · have hsv := ((h.mem_iff s).mp (by simp [hf])).lt_size
      subst he
      simp [Vacant, hs, hsv]
    · simpa [Vacant, he, Array.getElem?_setIfInBounds_ne (Ne.symm he)] using ht

/-- The slot for a new node is the one freed last, or a new one when none is free. -/
theorem allocate_taken (w : Workspace) (n : Node) :
    (w.free = (w.allocate n).1 :: (w.allocate n).2.free ∧
      (w.allocate n).2.slots.size = w.slots.size) ∨
    (w.free = [] ∧ (w.allocate n).2.free = [] ∧ (w.allocate n).1 = w.slots.size ∧
      (w.allocate n).2.slots.size = w.slots.size + 1) := by
  unfold allocate
  cases w.free <;> simp

/-- All that attaching a package below `parent` does: a slot that was not live, the top of the
free list if there is one, gets the new node, and the parent gets a last child. -/
structure Attached (w : Workspace) (parent : Slot) (p : Package) (s : Slot)
    (grown : Workspace) : Prop where
  parent_live : ∃ above, w.node? parent = some above ∧ above.children.lookup p.name = none
  fresh : w.node? s = none
  taken : (w.free = s :: grown.free ∧ grown.slots.size = w.slots.size) ∨
    (w.free = [] ∧ grown.free = [] ∧ s = w.slots.size ∧ grown.slots.size = w.slots.size + 1)
  node : grown.node? s = some ⟨p, some parent, []⟩
  parent_node : grown.node? parent =
    (w.node? parent).map fun n => { n with children := n.children ++ [(p.name, s)] }
  others : ∀ t, t ≠ s → t ≠ parent → grown.node? t = w.node? t
  freeList : grown.FreeList

theorem Attached.ne_parent {parent : Slot} {p : Package} {grown : Workspace}
    (h : Attached w parent p s grown) (ht : w.node? t = none) : t ≠ parent := by
  rintro rfl
  obtain ⟨above, habove, _⟩ := h.parent_live
  simp [ht] at habove

theorem addChild_eq {parent : Slot} {p : Package} {above : Node}
    (ha : w.node? parent = some above) (hp : above.children.lookup p.name = none) :
    w.addChild parent p =
      .ok ((w.allocate ⟨p, some parent, []⟩).1,
        (w.allocate ⟨p, some parent, []⟩).2.modify parent fun n =>
          { n with children := n.children ++ [(p.name, (w.allocate ⟨p, some parent, []⟩).1)] }) := by
  simp [addChild, ha, hp]

/-- Attaching a package succeeds below a live node without a child of its name. -/
theorem FreeList.exists_attached (h : w.FreeList) {parent : Slot} {p : Package} {above : Node}
    (ha : w.node? parent = some above) (hp : above.children.lookup p.name = none) :
    ∃ s grown, w.addChild parent p = .ok (s, grown) ∧ Attached w parent p s grown := by
  have hfresh := h.node?_allocate_slot ⟨p, some parent, []⟩
  have hne : parent ≠ (w.allocate ⟨p, some parent, []⟩).1 := by
    intro he
    rw [← he, ha] at hfresh
    simp at hfresh
  refine ⟨_, _, addChild_eq ha hp, ⟨above, ha, hp⟩, hfresh, ?_, ?_, ?_, fun t hs ht => ?_,
    (h.allocate _).modify⟩
  · simpa only [free_modify, size_modify] using w.allocate_taken ⟨p, some parent, []⟩
  · simp [h.node?_allocate, Ne.symm hne]
  · simp [h.node?_allocate, hne]
  · simp [h.node?_allocate, hs, ht]

theorem FreeList.attached (h : w.FreeList) {parent : Slot} {p : Package} {grown : Workspace}
    (he : w.addChild parent p = .ok (s, grown)) : Attached w parent p s grown := by
  cases ha : w.node? parent with
  | none => simp [addChild, ha] at he
  | some above =>
    cases hp : above.children.lookup p.name with
    | some c => simp [addChild, ha, hp] at he
    | none =>
      obtain ⟨s', grown', he', hat⟩ := h.exists_attached ha hp
      rw [he] at he'
      cases he'
      exact hat

end BuildAtlas.Workspace
