import BuildAtlas.Proofs.Workspace.Histories

/-! # Addresses of live nodes

The walk up along parent links is written down without a bound on its turns. In a forest it
ends for every live node, and what it spells is the one path under which the node is found; so
live nodes and the paths that lead somewhere are in bijection after every history.
-/
namespace BuildAtlas.Workspace

/-- The walk up from a node, one constructor a turn, with the names that it has met when it
arrives at a node without a parent; the name met last comes last. -/
inductive Climbs (w : Workspace) : Slot → List String → Prop
  | root {s n} : w.node? s = some n → n.parent = none → Climbs w s []
  | up {s n above names} : w.node? s = some n → n.parent = some above → Climbs w above names →
      Climbs w s (n.package.name :: names)

variable {w : Workspace} {s t : Slot} {path path' : PackagePath} {names names' : List String}
  {n : Node} {steps : Nat}

theorem Climbs.unique (h : w.Climbs s names) (h' : w.Climbs s names') : names = names' := by
  induction h generalizing names' with
  | root hn hnone =>
    cases h' with
    | root => rfl
    | up hn' hparent _ =>
      obtain rfl := Option.some.inj (hn.symm.trans hn')
      simp [hnone] at hparent
  | up hn hparent _ ih =>
    cases h' with
    | root hn' hnone =>
      obtain rfl := Option.some.inj (hn.symm.trans hn')
      simp [hnone] at hparent
    | up hn' hparent' hrest =>
      obtain rfl := Option.some.inj (hn.symm.trans hn')
      obtain rfl := Option.some.inj (hparent.symm.trans hparent')
      rw [ih hrest]

/-- The walk that counts its turns and comes to an end is a walk. -/
theorem climbs_of_climb (h : w.climb steps s = some names) : w.Climbs s names := by
  induction steps generalizing s names with
  | zero => simp [climb] at h
  | succ steps ih =>
    obtain ⟨n, hn, h⟩ := Option.bind_eq_some_iff.mp h
    cases hparent : n.parent with
    | none =>
      rw [hparent] at h
      cases h
      exact .root hn hparent
    | some above =>
      rw [hparent] at h
      obtain ⟨rest, hrest, rfl⟩ := Option.map_eq_some_iff.mp h
      exact .up hn hparent (ih hrest)

theorem climbs_of_path? (h : w.path? s = some path) : w.Climbs s path.reverse := by
  obtain ⟨names, hnames, rfl⟩ := Option.map_eq_some_iff.mp h
  rw [List.reverse_reverse]
  exact climbs_of_climb hnames

/-- Each live node has one path, and each path that leads somewhere is that of one live node. -/
structure Addressed (w : Workspace) : Prop where
  /-- The walk up from a live node ends, and leads back when it is read from its end. -/
  ends : ∀ s n, w.node? s = some n → ∃ names, w.Climbs s names ∧
    w.path? s = some names.reverse ∧ w.find names.reverse = some s
  /-- What is found is live and has the path under which it was found. -/
  found : ∀ path s, w.find path = some s →
    (∃ n, w.node? s = some n) ∧ w.Climbs s path.reverse ∧ w.path? s = some path
  path_inj : ∀ s t names, w.Climbs s names → w.Climbs t names → s = t
  find_inj : ∀ s path path', w.find path = some s → w.find path' = some s → path = path'

theorem Climbs.live (h : w.Climbs s names) : ∃ n, w.node? s = some n := by
  cases h with
  | root hn _ => exact ⟨_, hn⟩
  | up hn _ _ => exact ⟨_, hn⟩

theorem Forest.climbs_of_find (h : w.Forest []) (hs : w.find path = some s) :
    w.Climbs s path.reverse := climbs_of_path? (h.path?_eq_some_iff.mpr hs)

theorem Forest.find_of_climbs (h : w.Forest []) (hs : w.Climbs s names) :
    w.find names.reverse = some s := by
  obtain ⟨n, hn⟩ := hs.live
  obtain ⟨path, hf⟩ := h.find_of_live hn
  rw [hs.unique (h.climbs_of_find hf), List.reverse_reverse]
  exact hf

theorem Forest.addressed (h : w.Forest []) : w.Addressed where
  ends s n hn := by
    obtain ⟨path, hf⟩ := h.find_of_live hn
    have hclimbs := h.climbs_of_find hf
    have hback := h.find_of_climbs hclimbs
    exact ⟨path.reverse, hclimbs, h.path?_eq_some_iff.mpr hback, hback⟩
  found path s hs := ⟨h.find_live hs, h.climbs_of_find hs, h.path?_eq_some_iff.mpr hs⟩
  path_inj s t names hs ht :=
    Option.some.inj ((h.find_of_climbs hs).symm.trans (h.find_of_climbs ht))
  find_inj s path path' hs hs' := h.find_inj hs hs'

/-- After every history each live node is found under the path that its parent links spell,
and under no other. -/
theorem run_addressed (root : Package) (changes : List Change) :
    ((withRoot root).run changes).Addressed := (forest_run root changes).addressed

end BuildAtlas.Workspace
