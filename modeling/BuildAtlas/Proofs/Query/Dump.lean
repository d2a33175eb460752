import BuildAtlas.Proofs.Completion.Agreement
import BuildAtlas.Proofs.Workspace.Listing
import Mathlib.Data.List.Forall2

/-! # The dump of an index

The dump lists the live slots, each with its package and the text of its path. What an index holds
can be written as labels, so all readers of such a text agree on it: the look-up of packages finds
the slot again, the label reader finds the path of the slot and no name, and the packages that are
told to lie below the text are the ones dumped for the children of the slot.
-/
namespace BuildAtlas

theorem forall₂_filterMap {α β : Type} {R : α → β → Prop} {f : α → Option β} {xs : List α}
    (h : ∀ x ∈ xs, ∃ y, f x = some y ∧ R x y) : List.Forall₂ R xs (xs.filterMap f) := by
  induction xs with
  | nil => exact .nil
  | cons x xs ih =>
    obtain ⟨y, hy, hr⟩ := h x List.mem_cons_self
    rw [List.filterMap_cons_some hy]
    exact .cons hr (ih fun z hz => h z (List.mem_cons_of_mem _ hz))

namespace Workspace
variable {w : Workspace} {s : Slot} {path : PackagePath} {n : Node} {name : String}

/-- The text under which a slot is dumped. -/
def keyOf (w : Workspace) (s : Slot) : Option String := (w.path? s).map PackagePath.render

/-- A dumped entry has the package of a slot, and its text leads back to the slot by every reading
of paths. -/
structure Keyed (w : Workspace) (s : Slot) (entry : String × Package) (path : PackagePath)
    (n : Node) : Prop where
  live : w.node? s = some n
  located : w.path? s = some path
  key : w.keyOf s = some entry.1
  package : entry.2 = n.package
  found : w.find (.read entry.1) = some s
  looked : w.packageAt entry.1 = .ok entry.2
  label : Label.parse entry.1 = .ok (.absolute "" path "")
  below : ∃ texts, w.subpackagesAt entry.1 = .ok texts ∧
    texts.map some = n.children.map fun child => w.keyOf child.2

/-- The dump is about every live slot once, and no two of its texts are the same. -/
structure Dumped (w : Workspace) : Prop where
  slots : ∀ s, s ∈ w.preorder ↔ ∃ n, w.node? s = some n
  once : w.preorder.Nodup
  entries : List.Forall₂ (fun s entry => ∃ path n, w.Keyed s entry path n) w.preorder w.packages
  texts : (w.packages.map (·.1)).Nodup

/-! ## One entry -/

theorem childPrefix_render (h : path.Plain) : childPrefix path.render = Completion.opening path := by
  rw [childPrefix, h.read_render]
  rcases List.eq_nil_or_concat path with rfl | ⟨above, last, rfl⟩
  · rfl
  · rw [List.concat_eq_append] at h ⊢
    obtain ⟨hempty, hslash⟩ := h last (by simp)
    have hlast : (PackagePath.render (above ++ [last])).toList.getLast? = last.toList.getLast? := by
      rw [← Completion.opening_append, String.toList_append]
      exact List.getLast?_append_of_ne_nil _ (by simpa using hempty)
    have hne : (PackagePath.render (above ++ [last])).toList.getLast? ≠ some '/' := by
      rw [hlast]
      exact fun he => hslash (List.mem_of_getLast? he)
    rw [if_neg (by simp), if_neg hne, Completion.opening, if_neg (by simp)]

theorem Forest.keyOf_child (h : w.Forest []) (hs : w.path? s = some path) (hn : w.node? s = some n) :
    ∀ child ∈ n.children, w.keyOf child.2 = some (path ++ [child.1]).render := by
  intro child hchild
  have hfound : w.find (path ++ [child.1]) = some child.2 :=
    h.find_concat_iff.mpr ⟨s, h.path?_eq_some_iff.mp hs, n, hn, hchild⟩
  rw [keyOf, h.path?_eq_some_iff.mpr hfound, Option.map_some]

namespace Legible

theorem keyed (h : w.Legible) (hs : w.path? s = some path) (hn : w.node? s = some n) :
    w.Keyed s (path.render, n.package) path n := by
  have hfind := h.forest.path?_eq_some_iff.mp hs
  have hpath := h.isPath path s hfind
  have hread := hpath.plain.read_render
  have hnode : w.nodeAt (.read path.render) = some n := by
    rw [hread, nodeAt_of_find hfind hn]
  refine ⟨hn, hs, by rw [keyOf, hs, Option.map_some], rfl, by rw [hread, hfind], ?_,
    hpath.parse_render, ?_⟩
  · rw [packageAt, hnode]
  · refine ⟨_, h.forest.subpackagesAt_of_nodeAt hnode, ?_⟩
    rw [childPrefix_render hpath.plain]
    simp only [List.map_map]
    refine List.map_congr_left fun child hchild => ?_
    rw [h.forest.keyOf_child hs hn child hchild, ← Completion.opening_append]
    rfl

/-! ## All entries -/

theorem exists_keyed (h : w.Legible) (hs : s ∈ w.preorder) :
    ∃ entry, ((w.node? s).bind fun n => (w.path? s).map fun path => (path.render, n.package)) =
      some entry ∧ ∃ path n, w.Keyed s entry path n := by
  obtain ⟨n, hn⟩ := h.forest.mem_preorder.mp hs
  obtain ⟨path, hfind⟩ := h.forest.find_of_live hn
  have hpath : w.path? s = some path := h.forest.path?_eq_some_iff.mpr hfind
  exact ⟨_, by rw [hn, hpath, Option.bind_some, Option.map_some], path, n, h.keyed hpath hn⟩

theorem dumped (h : w.Legible) : w.Dumped := by
  have hentries : List.Forall₂ (fun s entry => ∃ path n, w.Keyed s entry path n)
      w.preorder w.packages := forall₂_filterMap fun s hs => h.exists_keyed hs
  refine ⟨fun s => h.forest.mem_preorder, h.forest.preorder_nodup, hentries, ?_⟩
  -- each text is looked up to its own slot, and no slot comes twice
  have hfound : w.preorder.map some =
      (w.packages.map (·.1)).map fun text => w.find (.read text) := by
    rw [List.map_map, ← List.forall₂_eq_eq_eq, List.forall₂_map_left_iff,
      List.forall₂_map_right_iff]
    exact hentries.imp fun s entry ⟨path, n, hk⟩ => hk.found.symm
  have hslots : (w.preorder.map some).Nodup :=
    h.forest.preorder_nodup.map (Option.some_injective _)
  exact (hfound ▸ hslots).of_map _

end Legible

end Workspace

namespace Query
variable {σ : Type} {tool : Tool σ} {shell : Shell} {s : Settings} {st st' st'' : σ}
  {out src : Output}

/-- Two answers that ended well are indexed, and the index is dumped under texts that lead back to
the packages by every reading of paths. -/
theorem index_dumped_by_keys (ht : tool.run (targetCommand shell s) st = (.ok out, st'))
    (hf : tool.run (sourceCommand shell s) st' = (.ok src, st''))
    (hout : out.succeeded) (hsrc : src.succeeded) :
    ∃ i, (index tool shell s st).result = .ok i ∧ i.workspace.Dumped :=
  ⟨_, index_of_succeeded ht hf hout hsrc, (legible_indexOf (out, src)).dumped⟩

theorem index_dumped_by_keys_noisy :
    noisyTargets.succeeded ∧ noisySources.succeeded ∧
      ∃ i, (index Script.tool .posix {}
          { replies := [.output noisyTargets, .output noisySources] }).result = .ok i ∧
        i.workspace.Dumped ∧
        i.workspace.packages.map (·.1) = ["//", "//a", "//a/b", "//c"] := by
  have hsources : noisySources.succeeded := rfl
  have ht : Script.tool.run (targetCommand .posix {})
      { replies := [.output noisyTargets, .output noisySources] } = (.ok noisyTargets, _) := rfl
  obtain ⟨i, hi, hdumped⟩ := index_dumped_by_keys ht rfl rfl hsources
  refine ⟨rfl, hsources, i, hi, hdumped, ?_⟩
  obtain rfl := Except.ok.inj ((index_of_succeeded ht rfl rfl hsources).symm.trans hi)
  decide +kernel

end Query

end BuildAtlas
