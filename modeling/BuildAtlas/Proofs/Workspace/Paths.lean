import Mathlib.Data.Fintype.Card
import BuildAtlas.Proofs.Workspace.Forest

/-! # Paths and live slots

In a forest without loose slots the paths that lead somewhere and the live slots are in
bijection: climbing from a slot spells the one path that finds it, and the walk from the root
meets each live slot once.
-/
namespace BuildAtlas.Workspace
variable {w : Workspace} {loose : List Slot} {s t : Slot} {path path' : PackagePath} {n : Node}

theorem find_nil : w.find [] = some rootSlot := rfl

theorem find_concat (path : PackagePath) (name : String) :
    w.find (path ++ [name]) = (w.find path).bind fun a => w.child? a name :=
  findFrom_concat rootSlot path name

theorem find_append (path rest : PackagePath) :
    w.find (path ++ rest) = (w.find path).bind fun a => w.findFrom a rest :=
  findFrom_append rootSlot path rest

namespace Forest

/-- A live slot that is neither the root nor loose hangs below the node its parent link names. -/
theorem holds_of_live (h : w.Forest loose) (hn : w.node? s = some n) (hroot : s ≠ rootSlot)
    (hloose : s ∉ loose) : ∃ a, n.parent = some a ∧ w.Holds a n.package.name s := by
  obtain ⟨top, htop, path, hf⟩ := h.reach s n hn
  rcases List.eq_nil_or_concat path with rfl | ⟨above, name, rfl⟩
  · obtain rfl := Option.some.inj hf
    exact absurd htop (not_or_intro hroot hloose)
  · rw [List.concat_eq_append, findFrom_concat] at hf
    obtain ⟨a, _, hc⟩ := Option.bind_eq_some_iff.mp hf
    have hold := holds_of_child? hc
    obtain ⟨m, hm, hname, hparent⟩ := h.child hold
    obtain rfl : n = m := Option.some.inj (hn.symm.trans hm)
    rw [hname]
    exact ⟨a, hparent, hold⟩

theorem find_of_live (h : w.Forest []) (hn : w.node? s = some n) :
    ∃ path, w.find path = some s := by
  obtain ⟨top, htop, path, hf⟩ := h.reach s n hn
  obtain rfl : top = rootSlot := by simpa using htop
  exact ⟨path, hf⟩

theorem root_live (h : w.Forest loose) : ∃ n, w.node? rootSlot = some n := by
  obtain ⟨n, hn, _⟩ := h.root
  exact ⟨n, hn⟩

theorem find_live (h : w.Forest loose) (hs : w.find path = some s) :
    ∃ n, w.node? s = some n :=
  h.findFrom_live h.root_live hs

theorem find_concat_iff (h : w.Forest loose) {name : String} :
    w.find (path ++ [name]) = some s ↔ ∃ a, w.find path = some a ∧ w.Holds a name s := by
  simp [find_concat, Option.bind_eq_some_iff, h.names.child?_eq_some_iff]

/-- No slot is found under two paths: its parent link and its name fix the last step. -/
theorem find_inj (h : w.Forest loose) (hs : w.find path = some s)
    (hs' : w.find path' = some s) : path = path' := by
  induction path using List.reverseRecOn generalizing path' s with
  | nil =>
    obtain rfl := Option.some.inj hs
    rcases List.eq_nil_or_concat path' with rfl | ⟨above, name, rfl⟩
    · rfl
    · rw [List.concat_eq_append] at hs'
      obtain ⟨a, _, hold⟩ := h.find_concat_iff.mp hs'
      exact absurd hold h.not_holds_root
  | append_singleton above name ih =>
    obtain ⟨a, ha, hold⟩ := h.find_concat_iff.mp hs
    rcases List.eq_nil_or_concat path' with rfl | ⟨above', name', rfl⟩
    · obtain rfl := Option.some.inj hs'
      exact absurd hold h.not_holds_root
    · rw [List.concat_eq_append] at hs' ⊢
      obtain ⟨a', ha', hold'⟩ := h.find_concat_iff.mp hs'
      obtain ⟨rfl, rfl⟩ := h.holds_unique hold hold'
      rw [ih ha ha']

/-! ## Climbing -/

/-- The slots on the way to a slot are all different, so the way is shorter than the array. -/
theorem length_lt_size (h : w.Forest loose) (hs : w.find path = some s) :
    path.length < w.slots.size := by
  have hpre : ∀ i, ∃ a, w.find (path.take i) = some a := by
    intro i
    rw [← List.take_append_drop i path, find_append] at hs
    obtain ⟨a, ha, _⟩ := Option.bind_eq_some_iff.mp hs
    exact ⟨a, ha⟩
  choose slot hslot using hpre
  have hlt : ∀ i, slot i < w.slots.size := by
    intro i
    obtain ⟨n, hn⟩ := h.find_live (hslot i)
    exact lt_size_of_node? hn
  let f : Fin (path.length + 1) → Fin w.slots.size := fun i => ⟨slot i, hlt i⟩
  have hf : Function.Injective f := by
    intro i j hij
    have heq : slot i = slot j := Fin.mk.inj hij
    have htake := congrArg List.length (h.find_inj (hslot i) (heq ▸ hslot j))
    simp only [List.length_take] at htake
    exact Fin.ext (by omega)
  have hcard := Fintype.card_le_of_injective f hf
  simp only [Fintype.card_fin] at hcard
  omega

theorem climb_eq (h : w.Forest loose) (hs : w.find path = some s) {steps : Nat}
    (hlt : path.length < steps) : w.climb steps s = some path.reverse := by
  induction path using List.reverseRecOn generalizing s steps with
  | nil =>
    obtain ⟨n, hn, hnone⟩ := h.root
    obtain rfl := Option.some.inj hs
    obtain ⟨k, rfl⟩ : ∃ k, steps = k + 1 := ⟨steps - 1, by simp at hlt; omega⟩
    simp [climb, hn, hnone]
  | append_singleton above name ih =>
    obtain ⟨a, ha, hold⟩ := h.find_concat_iff.mp hs
    obtain ⟨m, hm, rfl, hparent⟩ := h.child hold
    simp only [List.length_append, List.length_singleton] at hlt
    obtain ⟨k, rfl⟩ : ∃ k, steps = k + 1 := ⟨steps - 1, by omega⟩
    simp [climb, hm, hparent, ih ha (show above.length < k by omega)]

/-- The names above a slot spell exactly the path that finds it. -/
theorem path?_eq_some_iff (h : w.Forest []) : w.path? s = some path ↔ w.find path = some s := by
  have hfound : ∀ {path}, w.find path = some s → w.path? s = some path := by
    intro path hs
    simp [path?, h.climb_eq hs (h.length_lt_size hs)]
  refine ⟨fun hs => ?_, hfound⟩
  cases hn : w.node? s with
  | none =>
    have hsize : w.slots.size = 0 ∨ ∃ k, w.slots.size = k + 1 := by cases w.slots.size <;> simp
    rcases hsize with hz | ⟨k, hk⟩
    · simp [path?, climb, hz] at hs
    · simp [path?, climb, hk, hn] at hs
  | some n =>
    obtain ⟨path', hf⟩ := h.find_of_live hn
    obtain rfl : path' = path := Option.some.inj ((hfound hf).symm.trans hs)
    exact hf

/-! ## Walking -/

theorem mem_preorderFrom (h : w.Forest loose) {depth : Nat} (hs : ∃ n, w.node? s = some n) :
    t ∈ w.preorderFrom depth s ↔
      ∃ path : PackagePath, path.length < depth ∧ w.findFrom s path = some t := by
  induction depth generalizing s with
  | zero => simp [preorderFrom]
  | succ depth ih =>
    obtain ⟨n, hn⟩ := hs
    have hbelow : ∀ e ∈ n.children, w.child? s e.1 = some e.2 :=
      fun e he => h.names.child?_eq_some_iff.mpr ⟨n, hn, he⟩
    simp only [preorderFrom, hn, List.mem_cons, List.mem_flatMap]
    constructor
    · rintro (rfl | ⟨e, he, ht⟩)
      · exact ⟨[], by simp, rfl⟩
      · have hc := hbelow e he
        obtain ⟨m, hm, _⟩ := h.child ⟨n, hn, he⟩
        obtain ⟨path, hlt, hf⟩ := (ih ⟨m, hm⟩).mp ht
        exact ⟨e.1 :: path, by simpa using hlt, by simpa [findFrom_cons, hc] using hf⟩
    · rintro ⟨path, hlt, hf⟩
      cases path with
      | nil => exact Or.inl (Option.some.inj hf).symm
      | cons name path =>
        obtain ⟨c, hc, hrest⟩ := Option.bind_eq_some_iff.mp hf
        obtain ⟨k, hk, he⟩ := holds_of_child? hc
        obtain rfl := Option.some.inj (hn.symm.trans hk)
        obtain ⟨m, hm, _⟩ := h.child ⟨n, hn, he⟩
        exact Or.inr ⟨(name, c), he, (ih ⟨m, hm⟩).mpr ⟨path, by simpa using hlt, hrest⟩⟩

theorem preorderFrom_nodup (h : w.Forest loose) {depth : Nat} (hs : w.find path = some s) :
    (w.preorderFrom depth s).Nodup := by
  induction depth generalizing path s with
  | zero => exact List.nodup_nil
  | succ depth ih =>
    obtain ⟨n, hn⟩ := h.find_live hs
    have hbelow : ∀ e ∈ n.children, w.find (path ++ [e.1]) = some e.2 :=
      fun e he => h.find_concat_iff.mpr ⟨s, hs, n, hn, he⟩
    -- what stands below a child is found under a path through that child's name
    have hpath : ∀ e ∈ n.children, ∀ t ∈ w.preorderFrom depth e.2,
        ∃ rest, w.find (path ++ e.1 :: rest) = some t := by
      intro e he t ht
      obtain ⟨rest, _, hf⟩ := (h.mem_preorderFrom (h.find_live (hbelow e he))).mp ht
      refine ⟨rest, ?_⟩
      rw [List.append_cons, find_append, hbelow e he]
      exact hf
    simp only [preorderFrom, hn]
    refine List.nodup_cons.mpr ⟨?_, ?_⟩
    · intro hmem
      obtain ⟨e, he, ht⟩ := List.mem_flatMap.mp hmem
      obtain ⟨rest, hf⟩ := hpath e he s ht
      simpa using h.find_inj hs hf
    · rw [List.nodup_flatMap]
      refine ⟨fun e he => ih (hbelow e he), ?_⟩
      refine List.Pairwise.imp_of_mem ?_ (List.Nodup.pairwise_of_forall_ne (h.names s n hn).of_map
        (r := fun e e' => e.1 ≠ e'.1) ?_)
      · intro e e' he he' hne t ht ht'
        obtain ⟨rest, hf⟩ := hpath e he t ht
        obtain ⟨rest', hf'⟩ := hpath e' he' t ht'
        have heq := h.find_inj hf hf'
        simp only [List.append_cancel_left_eq, List.cons.injEq] at heq
        exact hne heq.1
      · intro e he e' he' hne hname
        exact hne (List.inj_on_of_nodup_map (h.names s n hn) he he' hname)

/-- The walk from the root meets exactly the live slots. -/
theorem mem_preorder (h : w.Forest []) : s ∈ w.preorder ↔ ∃ n, w.node? s = some n := by
  rw [preorder, h.mem_preorderFrom h.root_live]
  constructor
  · rintro ⟨path, _, hf⟩
    exact h.find_live hf
  · rintro ⟨n, hn⟩
    obtain ⟨path, hf⟩ := h.find_of_live hn
    exact ⟨path, h.length_lt_size hf, hf⟩

theorem preorder_nodup (h : w.Forest loose) : w.preorder.Nodup := h.preorderFrom_nodup find_nil

end Forest

/-- The paths of all packages, parents first. -/
def paths (w : Workspace) : List PackagePath := w.preorder.filterMap w.path?

namespace Forest

theorem map_path?_preorder (h : w.Forest []) : w.preorder.map w.path? = w.paths.map some := by
  have hsome : ∀ s ∈ w.preorder, ∃ path, w.path? s = some path := by
    intro s hs
    obtain ⟨n, hn⟩ := h.mem_preorder.mp hs
    obtain ⟨path, hf⟩ := h.find_of_live hn
    exact ⟨path, h.path?_eq_some_iff.mpr hf⟩
  unfold paths
  generalize w.preorder = slots at hsome
  induction slots with
  | nil => rfl
  | cons s rest ih =>
    obtain ⟨path, hp⟩ := hsome s List.mem_cons_self
    simp [hp, ih fun t ht => hsome t (List.mem_cons_of_mem _ ht)]

theorem length_preorder (h : w.Forest []) : w.preorder.length = w.paths.length := by
  simpa using congrArg List.length h.map_path?_preorder

theorem mem_paths (h : w.Forest []) : path ∈ w.paths ↔ ∃ s, w.find path = some s := by
  simp only [paths, List.mem_filterMap, h.path?_eq_some_iff]
  constructor
  · rintro ⟨s, _, hs⟩
    exact ⟨s, hs⟩
  · rintro ⟨s, hs⟩
    exact ⟨s, h.mem_preorder.mpr (h.find_live hs), hs⟩

theorem paths_nodup (h : w.Forest []) : w.paths.Nodup := by
  refine h.preorder_nodup.filterMap ?_
  intro s t path hs ht
  have hs := h.path?_eq_some_iff.mp hs
  exact Option.some.inj (hs.symm.trans (h.path?_eq_some_iff.mp ht))

end Forest

end BuildAtlas.Workspace
