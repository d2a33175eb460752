import BuildAtlas.Proofs.Workspace.Histories
import BuildAtlas.Proofs.Workspace.Listing

/-! # Walks with a stack

Two loops go through a tree with a stack of slots: listing all nodes, and freeing the nodes
below one. Each turn visits the slot on top and puts the slots below it onto the stack; the two
differ only in the order of these. Such a loop does what the recursion over the tree says, in a
forest it never meets a slot without a node, and it ends. For the listing this gives all live
slots, each once and behind its parent.
-/
namespace BuildAtlas

theorem Node.mem_childSlots {n : Node} {s : Slot} :
    s ∈ n.childSlots ↔ ∃ name, (name, s) ∈ n.children := by
  simp [Node.childSlots]

namespace Workspace

/-- The recursion that a walk is to follow: a node, and then the walks of the nodes below it. -/
def IsWalk (w : Workspace) (next : Node → List Slot) (walk : Slot → List Slot) : Prop :=
  ∀ s n, w.node? s = some n → walk s = s :: (next n).flatMap walk

/-- The same recursion, as deep as `depth` levels. -/
def walkFrom (w : Workspace) (next : Node → List Slot) : Nat → Slot → List Slot
  | 0, _ => []
  | depth + 1, s =>
    match w.node? s with
    | none => []
    | some n => s :: (next n).flatMap (w.walkFrom next depth)

variable {w w' : Workspace} {next : Node → List Slot} {stack stack' stack'' : List Slot}
  {seen seen' : List Slot} {s t : Slot} {n : Node} {depth : Nat} {path : PackagePath}

namespace Walks

theorem trans (h : w.Walks next stack seen stack') (h' : w.Walks next stack' seen' stack'') :
    w.Walks next stack (seen ++ seen') stack'' := by
  induction h with
  | refl => exact h'
  | visit hs _ ih => exact .visit hs (ih h')

/-- What lies deeper in the stack is left alone. -/
theorem append_stack (h : w.Walks next stack seen stack') (deeper : List Slot) :
    w.Walks next (stack ++ deeper) seen (stack' ++ deeper) := by
  induction h with
  | refl => exact .refl
  | @visit s n stack _ _ hs _ ih =>
    rw [List.append_assoc] at ih
    exact .visit hs ih

theorem flatMap {walk : Slot → List Slot} (h : ∀ s ∈ stack, w.Walks next [s] (walk s) []) :
    w.Walks next stack (stack.flatMap walk) [] := by
  induction stack with
  | nil => exact .refl
  | cons s stack ih =>
    have htop := (h s List.mem_cons_self).append_stack stack
    exact htop.trans (ih fun t ht => h t (List.mem_cons_of_mem _ ht))

/-- The turns are determined: a loop under way is on the way to the end there is. -/
theorem exists_rest {total : List Slot} (h : w.Walks next stack seen stack')
    (hall : w.Walks next stack total []) :
    ∃ rest, total = seen ++ rest ∧ w.Walks next stack' rest [] := by
  induction h generalizing total with
  | refl => exact ⟨total, rfl, hall⟩
  | visit hs _ ih =>
    cases hall with
    | visit hs' hrest =>
      obtain rfl := Option.some.inj (hs.symm.trans hs')
      obtain ⟨rest, rfl, hend⟩ := ih hrest
      exact ⟨rest, rfl, hend⟩

theorem unique (h : w.Walks next stack seen []) (h' : w.Walks next stack seen' []) :
    seen = seen' := by
  obtain ⟨rest, rfl, hrest⟩ := h.exists_rest h'
  cases hrest
  rw [List.append_nil]

/-- A loop that comes to its end has visited what the recursion says. -/
theorem eq_flatMap {walk : Slot → List Slot} (hwalk : w.IsWalk next walk)
    (h : w.Walks next stack seen []) : seen = stack.flatMap walk := by
  generalize hend : ([] : List Slot) = last at h
  induction h with
  | refl => rw [← hend, List.flatMap_nil]
  | @visit s n stack seen _ hs _ ih =>
    rw [ih hend, List.flatMap_append, List.flatMap_cons, hwalk s n hs, List.cons_append]

theorem live (h : w.Walks next stack seen stack') (hs : s ∈ seen) :
    ∃ n, w.node? s = some n := by
  induction h with
  | refl => cases hs
  | visit ht _ ih =>
    rcases List.mem_cons.mp hs with rfl | hs
    · exact ⟨_, ht⟩
    · exact ih hs

/-- Only the nodes that are visited matter. -/
theorem congr (h : w.Walks next stack seen stack')
    (hsame : ∀ s ∈ seen, w'.node? s = w.node? s) : w'.Walks next stack seen stack' := by
  induction h with
  | refl => exact .refl
  | visit hs _ ih =>
    refine .visit ((hsame _ List.mem_cons_self).trans hs) (ih fun t ht => ?_)
    exact hsame t (List.mem_cons_of_mem _ ht)

/-- A property of slots that each visit hands on to the slots it puts onto the stack. What was
visited before is the argument `done`. -/
theorem forall_seen {P : List Slot → Slot → Prop} {done : List Slot}
    (hmono : ∀ done s t, P done t → P (done ++ [s]) t)
    (hnext : ∀ done s n, w.node? s = some n → ∀ t ∈ next n, P (done ++ [s]) t)
    (h : w.Walks next stack seen stack') (hstack : ∀ t ∈ stack, P done t) :
    ∀ before s after, seen = before ++ s :: after → P (done ++ before) s := by
  induction h generalizing done with
  | refl => simp
  | @visit s n stack seen stack' hs _ ih =>
    intro before t after heq
    rcases List.cons_eq_append_iff.mp heq with ⟨rfl, htop⟩ | ⟨before', rfl, hrest⟩
    · obtain ⟨rfl, _⟩ := List.cons.inj htop
      rw [List.append_nil]
      exact hstack t List.mem_cons_self
    · rw [List.append_cons]
      refine ih (fun u hu => ?_) before' t after hrest
      rcases List.mem_append.mp hu with hu | hu
      · exact hnext done s n hs u hu
      · exact hmono done s u (hstack u (List.mem_cons_of_mem _ hu))

end Walks

/-! ## Walks in a forest -/

theorem preorderFrom_eq_walkFrom (w : Workspace) (depth : Nat) (s : Slot) :
    w.preorderFrom depth s = w.walkFrom Node.childSlots depth s := by
  induction depth generalizing s with
  | zero => rfl
  | succ depth ih =>
    rw [preorderFrom, walkFrom, ← funext ih]
    cases w.node? s with
    | none => rfl
    | some n => simp only [Node.childSlots, List.flatMap_map]

section
variable (hnext : ∀ n s, s ∈ next n → ∃ name, (name, s) ∈ n.children)
include hnext

/-- No path is longer than the number of slots, so a recursion that deep is the whole walk. -/
theorem Forest.walks_walkFrom (h : w.Forest []) (hs : w.find path = some s)
    (hdepth : w.slots.size ≤ path.length + depth) :
    w.Walks next [s] (w.walkFrom next depth s) [] := by
  induction depth generalizing path s with
  | zero =>
    have hlt := h.length_lt_size hs
    omega
  | succ depth ih =>
    obtain ⟨n, hn⟩ := h.find_live hs
    have hbelow : ∀ c ∈ next n, w.Walks next [c] (w.walkFrom next depth c) [] := by
      intro c hc
      obtain ⟨name, he⟩ := hnext n c hc
      refine ih (h.find_concat_iff.mpr ⟨s, hs, n, hn, he⟩) ?_
      rw [List.length_append, List.length_singleton]
      omega
    rw [walkFrom, hn]
    refine .visit hn ?_
    rw [List.append_nil]
    exact Walks.flatMap hbelow

theorem Forest.isWalk_walkFrom (h : w.Forest []) :
    w.IsWalk next (w.walkFrom next w.slots.size) := by
  intro s n hn
  obtain ⟨path, hs⟩ := h.find_of_live hn
  have hwhole : w.Walks next [s] (w.walkFrom next w.slots.size s) [] :=
    h.walks_walkFrom hnext hs (Nat.le_add_left _ _)
  have hbelow : ∀ c ∈ next n, w.Walks next [c] (w.walkFrom next w.slots.size c) [] := by
    intro c hc
    obtain ⟨name, he⟩ := hnext n c hc
    exact h.walks_walkFrom hnext (h.find_concat_iff.mpr ⟨s, hs, n, hn, he⟩) (Nat.le_add_left _ _)
  have hturn : w.Walks next (next n ++ []) ((next n).flatMap (w.walkFrom next w.slots.size)) [] := by
    rw [List.append_nil]
    exact Walks.flatMap hbelow
  exact hwhole.unique (.visit hn hturn)

end

/-! ## The listing of all nodes -/

/-- The loop that lists the nodes puts the children of a node onto its stack from the last to
the first, so that the first is on top. -/
structure Traversed (w : Workspace) : Prop where
  ends : w.Walks Node.childSlots [rootSlot] w.preorder []
  /-- However far the loop has come, it is never stuck and goes on to the same end. -/
  goes_on : ∀ seen stack, w.Walks Node.childSlots [rootSlot] seen stack →
    ∃ rest, w.preorder = seen ++ rest ∧ w.Walks Node.childSlots stack rest []
  recursive : w.IsWalk Node.childSlots (w.preorderFrom w.slots.size)
  /-- The recursion leaves no choice. -/
  determined : ∀ walk, w.IsWalk Node.childSlots walk → walk rootSlot = w.preorder
  live : ∀ s ∈ w.preorder, ∃ n, w.node? s = some n
  once : ∀ s n, w.node? s = some n → w.preorder.count s = 1
  length : w.preorder.length = w.packageCount
  after_parent : ∀ before s after n above, w.preorder = before ++ s :: after →
    w.node? s = some n → n.parent = some above → above ∈ before

theorem mem_children_of_childSlots (n : Node) (s : Slot) (hs : s ∈ n.childSlots) :
    ∃ name, (name, s) ∈ n.children := Node.mem_childSlots.mp hs

theorem Forest.walks_preorder (h : w.Forest []) :
    w.Walks Node.childSlots [rootSlot] w.preorder [] := by
  rw [preorder, preorderFrom_eq_walkFrom]
  exact h.walks_walkFrom mem_children_of_childSlots find_nil (Nat.le_add_left _ _)

/-- A slot comes onto the stack when its parent is visited. -/
theorem Forest.parent_mem_before (h : w.Forest []) {before after : List Slot} {above : Slot}
    (hsplit : w.preorder = before ++ s :: after) (hn : w.node? s = some n)
    (hparent : n.parent = some above) : above ∈ before := by
  let Behind (done : List Slot) (t : Slot) : Prop :=
    ∀ m a, w.node? t = some m → m.parent = some a → a ∈ done
  have hmono : ∀ done s t, Behind done t → Behind (done ++ [s]) t :=
    fun done s t ht m a hm ha => List.mem_append_left _ (ht m a hm ha)
  have hnext : ∀ done s n, w.node? s = some n → ∀ t ∈ n.childSlots, Behind (done ++ [s]) t := by
    intro done s n hn t ht m a hm ha
    obtain ⟨name, he⟩ := Node.mem_childSlots.mp ht
    obtain ⟨k, hk, _, hks⟩ := h.child ⟨n, hn, he⟩
    obtain rfl := Option.some.inj (hm.symm.trans hk)
    obtain rfl := Option.some.inj (ha.symm.trans hks)
    exact List.mem_append_right _ (List.mem_singleton_self _)
  have hroot : ∀ t ∈ [rootSlot], Behind [] t := by
    intro t ht m a hm ha
    obtain rfl := List.mem_singleton.mp ht
    obtain ⟨r, hr, hnone⟩ := h.root
    obtain rfl := Option.some.inj (hm.symm.trans hr)
    simp [hnone] at ha
  exact h.walks_preorder.forall_seen hmono hnext hroot before s after hsplit n above hn hparent

theorem Forest.traversed (h : w.Forest []) : w.Traversed where
  ends := h.walks_preorder
  goes_on seen stack hseen := hseen.exists_rest h.walks_preorder
  recursive := by
    have hwalk := h.isWalk_walkFrom mem_children_of_childSlots
    rwa [← funext (w.preorderFrom_eq_walkFrom w.slots.size)] at hwalk
  determined walk hwalk := by
    rw [h.walks_preorder.eq_flatMap hwalk, List.flatMap_singleton]
  live s hs := h.mem_preorder.mp hs
  once s n hn := List.count_eq_one_of_mem h.preorder_nodup (h.mem_preorder.mpr ⟨n, hn⟩)
  length := by rw [h.length_preorder, h.packageCount_eq]
  after_parent before s after n above hsplit hn hparent :=
    h.parent_mem_before hsplit hn hparent

/-- After every history the loop that lists the nodes ends, gives what the recursion gives, and
meets each live node once and behind its parent. -/
theorem run_traversed (root : Package) (changes : List Change) :
    ((withRoot root).run changes).Traversed := (forest_run root changes).traversed

end Workspace

end BuildAtlas
