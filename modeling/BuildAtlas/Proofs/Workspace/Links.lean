import BuildAtlas.Proofs.Workspace.Nodes

/-! # Links from nodes to their children

`Holds` is an entry in the map of children of a node; looking up a name and descending along a
path follow such entries.
-/
namespace BuildAtlas.Workspace
variable {w w' : Workspace} {a b c s parent : Slot} {name : String} {p : Package}

/-- The node in slot `a` has the child `b` under a name. -/
def Holds (w : Workspace) (a : Slot) (name : String) (b : Slot) : Prop :=
  ∃ n, w.node? a = some n ∧ (name, b) ∈ n.children

theorem mem_of_lookup {children : List (String × Slot)} (h : children.lookup name = some b) :
    (name, b) ∈ children := by
  obtain ⟨before, after, rfl, _⟩ := List.lookup_eq_some_iff.mp h
  simp

theorem lookup_of_mem {children : List (String × Slot)} (hn : (children.map (·.1)).Nodup)
    (h : (name, b) ∈ children) : children.lookup name = some b := by
  induction children with
  | nil => simp at h
  | cons e rest ih =>
    obtain ⟨he, hrest⟩ := List.nodup_cons.mp hn
    rcases List.mem_cons.mp h with rfl | h
    · simp
    · have hne : (name == e.1) = false := by
        rw [beq_eq_false_iff_ne]
        rintro rfl
        exact he (List.mem_map_of_mem (f := (·.1)) h)
      rw [show e = (e.1, e.2) from rfl, List.lookup_cons, hne]
      exact ih hrest h

theorem lookup_eq_none {children : List (String × Slot)} :
    children.lookup name = none ↔ name ∉ children.map (·.1) := by
  rw [List.lookup_eq_none_iff]
  constructor
  · intro h hm
    obtain ⟨e, he, rfl⟩ := List.mem_map.mp hm
    simpa using h e he
  · intro h e he
    rw [bne_iff_ne]
    rintro rfl
    exact h (List.mem_map_of_mem (f := (·.1)) he)

theorem holds_of_child? (h : w.child? a name = some b) : w.Holds a name b := by
  obtain ⟨n, hn, hl⟩ := Option.bind_eq_some_iff.mp h
  exact ⟨n, hn, mem_of_lookup hl⟩

/-- No node has two children of one name. -/
def NamesNodup (w : Workspace) : Prop :=
  ∀ a n, w.node? a = some n → (n.children.map (·.1)).Nodup

theorem NamesNodup.child?_eq_some_iff (hw : w.NamesNodup) :
    w.child? a name = some b ↔ w.Holds a name b := by
  refine ⟨holds_of_child?, ?_⟩
  rintro ⟨n, hn, he⟩
  simp [child?, hn, lookup_of_mem (hw a n hn) he]

/-! ## Descending -/

@[simp] theorem findFrom_nil : w.findFrom a [] = some a := rfl

theorem findFrom_cons {path : PackagePath} :
    w.findFrom a (name :: path) = (w.child? a name).bind fun c => w.findFrom c path := rfl

theorem findFrom_append (a : Slot) (path rest : PackagePath) :
    w.findFrom a (path ++ rest) = (w.findFrom a path).bind fun c => w.findFrom c rest := by
  induction path generalizing a with
  | nil => rfl
  | cons name path ih =>
    simp only [List.cons_append, findFrom_cons, Option.bind_assoc]
    exact Option.bind_congr fun c _ => ih c

theorem findFrom_concat (a : Slot) (path : PackagePath) (name : String) :
    w.findFrom a (path ++ [name]) = (w.findFrom a path).bind fun c => w.child? c name := by
  rw [findFrom_append]
  exact Option.bind_congr fun c _ => by simp [findFrom_cons]

/-- A descent is the same in another tree that has the same children along it. -/
theorem findFrom_transfer (good : Slot → Prop)
    (hstep : ∀ a name c, good a → w.child? a name = some c →
      w'.child? a name = some c ∧ good c)
    {path : PackagePath} (ha : good a) (h : w.findFrom a path = some b) :
    w'.findFrom a path = some b := by
  induction path generalizing a with
  | nil => exact h
  | cons name path ih =>
    obtain ⟨c, hc, hrest⟩ := Option.bind_eq_some_iff.mp h
    obtain ⟨hc', hgood⟩ := hstep a name c ha hc
    simpa [findFrom_cons, hc'] using ih hgood hrest

/-! ## Links after an operation -/

@[simp] theorem holds_modifyPackage {f : Package → Package} :
    (w.modifyPackage s f).Holds a name b ↔ w.Holds a name b := by
  simp only [Holds, node?_modifyPackage]
  cases w.node? a <;> simp

@[simp] theorem child?_modifyPackage {f : Package → Package} :
    (w.modifyPackage s f).child? a name = w.child? a name := by
  simp only [child?, node?_modifyPackage]
  cases w.node? a <;> rfl

@[simp] theorem findFrom_modifyPackage {f : Package → Package} {path : PackagePath} :
    (w.modifyPackage s f).findFrom a path = w.findFrom a path := by
  induction path generalizing a with
  | nil => rfl
  | cons name path ih => simp [findFrom_cons, ih]

theorem holds_freeSlot : (w.freeSlot s).Holds a name b ↔ a ≠ s ∧ w.Holds a name b := by
  by_cases h : a = s <;> simp [Holds, h]

theorem child?_freeSlot :
    (w.freeSlot s).child? a name = if a = s then none else w.child? a name := by
  by_cases h : a = s <;> simp [child?, h]

namespace Attached
variable {grown : Workspace}

theorem node?_of_live (h : Attached w parent p s grown) {n : Node} (hn : w.node? a = some n) :
    grown.node? a = some { n with
      children := n.children ++ if a = parent then [(p.name, s)] else [] } := by
  have hs : a ≠ s := by
    rintro rfl
    simp [h.fresh] at hn
  by_cases ha : a = parent
  · subst ha
    simp [h.parent_node, hn]
  · simp [h.others a hs ha, hn, ha]

theorem live_cases (h : Attached w parent p s grown) {m : Node} (hm : grown.node? a = some m) :
    (a = s ∧ m = ⟨p, some parent, []⟩) ∨
      ∃ n, w.node? a = some n ∧
        m = { n with children := n.children ++ if a = parent then [(p.name, s)] else [] } := by
  by_cases hs : a = s
  · subst hs
    exact Or.inl ⟨rfl, Option.some.inj (hm.symm.trans h.node)⟩
  · right
    cases hn : w.node? a with
    | none =>
      rw [h.others a hs (h.ne_parent hn), hn] at hm
      simp at hm
    | some n => exact ⟨n, rfl, Option.some.inj (hm.symm.trans (h.node?_of_live hn))⟩

theorem holds_iff (h : Attached w parent p s grown) :
    grown.Holds a name b ↔ w.Holds a name b ∨ (a = parent ∧ name = p.name ∧ b = s) := by
  constructor
  · rintro ⟨m, hm, he⟩
    rcases h.live_cases hm with ⟨_, rfl⟩ | ⟨n, hn, rfl⟩
    · simp at he
    · rcases List.mem_append.mp he with he | he
      · exact Or.inl ⟨n, hn, he⟩
      · by_cases ha : a = parent
        · simp only [if_pos ha, List.mem_singleton, Prod.mk.injEq] at he
          exact Or.inr ⟨ha, he⟩
        · simp [ha] at he
  · rintro (⟨n, hn, he⟩ | ⟨rfl, rfl, rfl⟩)
    · exact ⟨_, h.node?_of_live hn, List.mem_append_left _ he⟩
    · obtain ⟨above, habove, _⟩ := h.parent_live
      exact ⟨_, h.node?_of_live habove, by simp⟩

theorem namesNodup (h : Attached w parent p s grown) (hw : w.NamesNodup) :
    grown.NamesNodup := by
  intro a m hm
  rcases h.live_cases hm with ⟨_, rfl⟩ | ⟨n, hn, rfl⟩
  · exact List.nodup_nil
  · by_cases ha : a = parent
    · obtain ⟨above, habove, hl⟩ := h.parent_live
      obtain rfl : n = above := Option.some.inj (hn.symm.trans (ha ▸ habove))
      simp only [ha, if_true, List.map_append, List.map_cons, List.map_nil]
      rw [List.nodup_append]
      refine ⟨hw a n hn, by simp, fun x hx y hy => ?_⟩
      rintro rfl
      rw [List.mem_singleton] at hy
      exact lookup_eq_none.mp hl (hy ▸ hx)
    · simpa [ha] using hw a n hn

/-- Only the new name is new among the children to look up. -/
theorem child?_eq (h : Attached w parent p s grown) (a : Slot) (name : String) :
    grown.child? a name = if a = parent ∧ name = p.name then some s else w.child? a name := by
  cases hn : w.node? a with
  | none =>
    have hp := h.ne_parent hn
    by_cases hs : a = s
    · subst hs
      simp [child?, h.node, h.fresh, hp]
    · simp [child?, h.others a hs hp, hp]
  | some n =>
    by_cases ha : a = parent
    · subst ha
      obtain ⟨above, habove, hl⟩ := h.parent_live
      obtain rfl : n = above := Option.some.inj (hn.symm.trans habove)
      by_cases hname : name = p.name
      · simp [child?, h.node?_of_live hn, hname, List.lookup_append, hl]
      · have hne : (name == p.name) = false := beq_eq_false_iff_ne.mpr hname
        simp [child?, h.node?_of_live hn, hn, hname, List.lookup_append, List.lookup_cons, hne]
    · simp [child?, h.node?_of_live hn, hn, ha]

theorem findFrom_eq_some (h : Attached w parent p s grown) {path : PackagePath}
    (hf : w.findFrom a path = some b) : grown.findFrom a path = some b := by
  refine findFrom_transfer (fun _ => True) (fun c name d _ hd => ⟨?_, trivial⟩) trivial hf
  rw [h.child?_eq, if_neg, hd]
  rintro ⟨rfl, rfl⟩
  obtain ⟨above, habove, hl⟩ := h.parent_live
  simp [child?, habove, hl] at hd

end Attached

end BuildAtlas.Workspace
