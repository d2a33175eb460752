import BuildAtlas.Proofs.Workspace.Paths

/-! # Cutting and freeing

Emptying a node cuts its children loose. The loop of clearing then frees one loose slot a turn
and its children become loose in its place, so that the slots on its stack are always exactly
the loose ones. At the end nothing is loose.
-/
namespace BuildAtlas

/-- What freeing a node leaves on top of the stack: its children, the last one first. -/
def Node.pushed (n : Node) : List Slot := (n.children.map (·.2)).reverse

@[simp] theorem Node.mem_pushed {n : Node} {s : Slot} :
    s ∈ n.pushed ↔ ∃ name, (name, s) ∈ n.children := by
  simp [Node.pushed]

namespace Workspace

/-- The turns of the loop that frees the slots on a stack. -/
inductive Frees : Workspace → List Slot → Workspace → List Slot → Prop
  | refl {w stack} : Frees w stack w stack
  | skip {w s stack w' stack'} : w.node? s = none → Frees w stack w' stack' →
      Frees w (s :: stack) w' stack'
  | free {w s n stack w' stack'} : w.node? s = some n →
      Frees (w.freeSlot s) (n.pushed ++ stack) w' stack' → Frees w (s :: stack) w' stack'

variable {w w' : Workspace} {loose stack stack' : List Slot} {a b s t : Slot} {name : String}
  {n : Node}

/-- Empty the package in a slot and forget its children. -/
def emptied (w : Workspace) (s : Slot) : Workspace :=
  w.modify s fun n => { n with package := n.package.emptied, children := [] }

theorem node?_emptied_of_live (hn : w.node? t = some n) :
    (w.emptied s).node? t =
      some (if t = s then { n with package := n.package.emptied, children := [] } else n) := by
  by_cases h : t = s
  · subst h
    simp [emptied, hn]
  · simp [emptied, h, hn]

/-- No node is made or lost, and each keeps its name and its parent. -/
theorem links_emptied (hn : w.node? t = some n) :
    ∃ m, (w.emptied s).node? t = some m ∧ m.package.name = n.package.name ∧
      m.parent = n.parent := by
  refine ⟨_, node?_emptied_of_live hn, ?_⟩
  by_cases h : t = s
  · rw [if_pos h]
    exact ⟨rfl, rfl⟩
  · rw [if_neg h]
    exact ⟨rfl, rfl⟩

theorem live_of_emptied (hn : (w.emptied s).node? t = some n) : ∃ k, w.node? t = some k := by
  cases ht : w.node? t with
  | none => by_cases h : t = s <;> simp_all [emptied]
  | some k => exact ⟨k, rfl⟩

theorem holds_emptied : (w.emptied s).Holds a name b ↔ a ≠ s ∧ w.Holds a name b := by
  by_cases h : a = s
  · subst h
    cases hn : w.node? a <;> simp [Holds, emptied, hn]
  · simp [Holds, emptied, h]

theorem child?_emptied :
    (w.emptied s).child? a name = if a = s then none else w.child? a name := by
  by_cases h : a = s
  · subst h
    cases hn : w.node? a <;> simp [child?, emptied, hn]
  · simp [child?, emptied, h]

theorem freeSlot_emptied : (w.emptied s).freeSlot s = w.freeSlot s := by
  unfold emptied modify freeSlot
  cases w.node? s <;> simp

/-- A descent either avoids the children of `s` or passes through one of them for the last
time. -/
theorem findFrom_cut (hcut : ∀ a name, a ≠ s → w'.child? a name = w.child? a name)
    {path : PackagePath} (h : w.findFrom a path = some t) :
    w'.findFrom a path = some t ∨
      ∃ c name rest, w.Holds s name c ∧ w'.findFrom c rest = some t := by
  induction path generalizing a with
  | nil => exact Or.inl h
  | cons name path ih =>
    obtain ⟨c, hc, hrest⟩ := Option.bind_eq_some_iff.mp h
    rcases ih hrest with hkept | hpast
    · by_cases ha : a = s
      · exact Or.inr ⟨c, name, path, ha ▸ holds_of_child? hc, hkept⟩
      · left
        simpa [findFrom_cons, hcut a name ha, hc] using hkept
    · exact Or.inr hpast

namespace Forest

theorem perm (h : w.Forest loose) {loose' : List Slot} (hp : loose.Perm loose') :
    w.Forest loose' where
  freeList := h.freeList
  names := h.names
  root := h.root
  child := h.child
  loose_nodup := hp.nodup_iff.mp h.loose_nodup
  loose_live s hs := h.loose_live s (hp.mem_iff.mpr hs)
  loose_top s hs := h.loose_top s (hp.mem_iff.mpr hs)
  reach s n hn := by
    obtain ⟨top, htop, hf⟩ := h.reach s n hn
    exact ⟨top, htop.imp_right hp.mem_iff.mp, hf⟩

theorem top_live (h : w.Forest (s :: loose)) : ¬ w.node? s = none := by
  obtain ⟨n, hn, _⟩ := h.loose_live s List.mem_cons_self
  simp [hn]

theorem pushed_nodup (h : w.Forest loose) (hn : w.node? s = some n) : n.pushed.Nodup :=
  List.nodup_reverse.mpr (h.children_nodup hn)

/-- Emptying a node makes its children loose. -/
theorem emptied (h : w.Forest loose) (hn : w.node? s = some n) :
    (w.emptied s).Forest (n.pushed ++ loose) where
  freeList := h.freeList.modify
  names a m hm := by
    obtain ⟨k, ha⟩ := live_of_emptied hm
    obtain rfl := Option.some.inj (hm.symm.trans (node?_emptied_of_live ha))
    by_cases hs : a = s
    · simp [hs]
    · simpa [hs] using h.names a k ha
  root := by
    obtain ⟨r, hr, hnone⟩ := h.root
    obtain ⟨m, hm, _, hparent⟩ := links_emptied hr
    exact ⟨m, hm, hparent.trans hnone⟩
  child := by
    intro a name b hab
    obtain ⟨k, hk, hname, habove⟩ := h.child (holds_emptied.mp hab).2
    obtain ⟨m, hm, hkept, hparent⟩ := links_emptied hk
    exact ⟨m, hm, hkept.trans hname, hparent.trans habove⟩
  loose_nodup := by
    rw [List.nodup_append]
    refine ⟨h.pushed_nodup hn, h.loose_nodup, fun c hc d hd => ?_⟩
    rintro rfl
    obtain ⟨name, hc⟩ := Node.mem_pushed.mp hc
    exact h.loose_top c hd s name ⟨n, hn, hc⟩
  loose_live t ht := by
    have hlive : ∃ k, w.node? t = some k ∧ k.parent ≠ none := by
      rcases List.mem_append.mp ht with ht | ht
      · obtain ⟨name, ht⟩ := Node.mem_pushed.mp ht
        obtain ⟨k, hk, _, habove⟩ := h.child ⟨n, hn, ht⟩
        exact ⟨k, hk, by simp [habove]⟩
      · exact h.loose_live t ht
    obtain ⟨k, hk, habove⟩ := hlive
    obtain ⟨m, hm, _, hparent⟩ := links_emptied hk
    exact ⟨m, hm, hparent ▸ habove⟩
  loose_top t ht a name hab := by
    obtain ⟨ha, hab⟩ := holds_emptied.mp hab
    rcases List.mem_append.mp ht with ht | ht
    · obtain ⟨name', ht⟩ := Node.mem_pushed.mp ht
      exact ha (h.holds_unique hab ⟨n, hn, ht⟩).1
    · exact h.loose_top t ht a name hab
  reach t m hm := by
    obtain ⟨k, hk⟩ := live_of_emptied hm
    obtain ⟨top, htop, path, hf⟩ := h.reach t k hk
    have hcut : ∀ a name, a ≠ s → (w.emptied s).child? a name = w.child? a name := by
      intro a name ha
      rw [child?_emptied, if_neg ha]
    rcases findFrom_cut hcut hf with hkept | ⟨c, name, rest, ⟨n', hn', hc⟩, hpast⟩
    · exact ⟨top, htop.imp_right (List.mem_append_right _), path, hkept⟩
    · obtain rfl := Option.some.inj (hn.symm.trans hn')
      exact ⟨c, Or.inr (List.mem_append_left _ (Node.mem_pushed.mpr ⟨name, hc⟩)), rest, hpast⟩

/-- A loose slot without children can be given back. -/
theorem dropLeaf (h : w.Forest (s :: loose)) (hn : w.node? s = some n) (hc : n.children = []) :
    (w.freeSlot s).Forest loose where
  freeList := h.freeList.freeSlot hn
  names a m hm := by
    rw [node?_freeSlot] at hm
    split at hm
    · simp at hm
    · exact h.names a m hm
  root := by
    obtain ⟨r, hr, hnone⟩ := h.root
    refine ⟨r, ?_, hnone⟩
    rw [node?_freeSlot, if_neg (h.loose_ne_root List.mem_cons_self).symm, hr]
  child := by
    intro a name b hab
    obtain ⟨m, hm, hmb⟩ := h.child (holds_freeSlot.mp hab).2
    have hb : b ≠ s := by
      rintro rfl
      exact h.loose_top b List.mem_cons_self a name (holds_freeSlot.mp hab).2
    exact ⟨m, by rw [node?_freeSlot, if_neg hb, hm], hmb⟩
  loose_nodup := (List.nodup_cons.mp h.loose_nodup).2
  loose_live t ht := by
    obtain ⟨m, hm, hparent⟩ := h.loose_live t (List.mem_cons_of_mem _ ht)
    have hts : t ≠ s := by
      rintro rfl
      exact (List.nodup_cons.mp h.loose_nodup).1 ht
    exact ⟨m, by rw [node?_freeSlot, if_neg hts, hm], hparent⟩
  loose_top t ht a name hab :=
    h.loose_top t (List.mem_cons_of_mem _ ht) a name (holds_freeSlot.mp hab).2
  reach t m hm := by
    rw [node?_freeSlot] at hm
    split at hm
    · simp at hm
    · rename_i hts
      obtain ⟨top, htop, path, hf⟩ := h.reach t m hm
      have hcut : ∀ a name, a ≠ s → (w.freeSlot s).child? a name = w.child? a name := by
        intro a name ha
        rw [child?_freeSlot, if_neg ha]
      rcases findFrom_cut hcut hf with hkept | ⟨c, name, rest, ⟨n', hn', hmem⟩, _⟩
      · refine ⟨top, ?_, path, hkept⟩
        rcases htop with htop | htop
        · exact Or.inl htop
        · rcases List.mem_cons.mp htop with rfl | htop
          · -- nothing but the freed slot itself was found from it
            cases path with
            | nil => exact absurd (Option.some.inj hkept).symm hts
            | cons name path => simp [findFrom_cons, child?_freeSlot] at hkept
          · exact Or.inr htop
      · obtain rfl := Option.some.inj (hn.symm.trans hn')
        simp [hc] at hmem

/-- One turn of the loop: the slot is given back and its children are loose instead. -/
theorem freeSlot (h : w.Forest (s :: loose)) (hn : w.node? s = some n) :
    (w.freeSlot s).Forest (n.pushed ++ loose) := by
  have hcut : (w.emptied s).Forest (s :: (n.pushed ++ loose)) :=
    (h.emptied hn).perm List.perm_middle
  have hdrop := hcut.dropLeaf (node?_emptied_of_live hn) (by simp)
  rwa [freeSlot_emptied] at hdrop

end Forest

/-! ## The loop -/

/-- Releasing is the loop run until the stack is empty. -/
theorem frees_release (w : Workspace) (stack : List Slot) :
    Frees w stack (w.release stack) [] := by
  fun_induction release w stack with
  | case1 w => exact .refl
  | case2 w s stack hs ih => exact .skip hs ih
  | case3 w s stack n hs ih => exact .free hs ih

theorem Frees.forest (hf : Frees w stack w' stack') (h : w.Forest stack) : w'.Forest stack' := by
  induction hf with
  | refl => exact h
  | skip hs _ _ => exact absurd hs h.top_live
  | free hs _ ih => exact ih (h.freeSlot hs)

theorem Forest.release (h : w.Forest stack) : (w.release stack).Forest [] :=
  (frees_release w stack).forest h

/-! ## Clearing -/

theorem clearBelow_eq {path : String} (hs : w.find (.read path) = some s)
    (hn : w.node? s = some n) :
    w.clearBelow path = .ok ((w.emptied s).release n.pushed) := by
  simp [clearBelow, hs, hn, emptied, Node.pushed]

theorem clearBelow_of_find_none {path : String} (hs : w.find (.read path) = none) :
    w.clearBelow path = .error (.unknownPath path) := by
  simp [clearBelow, hs]

/-- In a whole tree emptying a node makes just its children loose. -/
theorem Forest.forest_emptied (h : w.Forest []) (hn : w.node? s = some n) :
    (w.emptied s).Forest n.pushed := by simpa using h.emptied hn

theorem Forest.clearBelow {path : String} (h : w.Forest []) (he : w.clearBelow path = .ok w') :
    w'.Forest [] := by
  cases hs : w.find (.read path) with
  | none => simp [clearBelow_of_find_none hs] at he
  | some s =>
    obtain ⟨n, hn⟩ := h.find_live hs
    rw [clearBelow_eq hs hn] at he
    cases he
    exact (h.forest_emptied hn).release

end Workspace

end BuildAtlas
