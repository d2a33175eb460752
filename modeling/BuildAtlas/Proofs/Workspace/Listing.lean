import BuildAtlas.Proofs.Workspace.Contents
import BuildAtlas.Proofs.Workspace.Paths

/-! # Listings by path

The walk over the slots of a forest spells the paths that a walk over the names alone would
spell. So the listing of the packages and their number depend on the two views by path only, and
not on the slots in which the packages happen to live.
-/
namespace BuildAtlas

/-- A path and the paths below it, parents first and siblings in order, as deep as `depth`
levels, where the names below each path are given. -/
def PackagePath.walk (names : PackagePath → List String) : Nat → PackagePath → List PackagePath
  | 0, _ => []
  | depth + 1, path => path :: (names path).flatMap fun name => walk names depth (path ++ [name])

namespace Workspace
variable {w w' : Workspace} {s : Slot} {path : PackagePath} {depth : Nat}

/-! ## The walk over the names -/

namespace Forest

theorem map_path?_preorderFrom (h : w.Forest []) (hs : w.find path = some s) :
    (w.preorderFrom depth s).map w.path? = (PackagePath.walk w.namesAt depth path).map some := by
  induction depth generalizing path s with
  | zero => rfl
  | succ depth ih =>
    obtain ⟨n, hn⟩ := h.find_live hs
    have hpath : w.path? s = some path := h.path?_eq_some_iff.mpr hs
    have hbelow : ∀ e ∈ n.children, (w.preorderFrom depth e.2).map w.path? =
        (PackagePath.walk w.namesAt depth (path ++ [e.1])).map some :=
      fun e he => ih (h.find_concat_iff.mpr ⟨s, hs, n, hn, he⟩)
    rw [preorderFrom, hn, PackagePath.walk, namesAt_of_find hs hn]
    simp only [List.map_cons, List.map_flatMap, List.flatMap_map, hpath]
    rw [List.flatMap_congr hbelow]

/-- No path is longer than the number of slots, so a walk that deep has met every path. -/
theorem walk_succ (h : w.Forest []) (hs : w.find path = some s)
    (hdepth : w.slots.size ≤ path.length + depth) :
    PackagePath.walk w.namesAt (depth + 1) path = PackagePath.walk w.namesAt depth path := by
  induction depth generalizing path s with
  | zero =>
    have hlt := h.length_lt_size hs
    omega
  | succ depth ih =>
    rw [PackagePath.walk]
    conv_rhs => rw [PackagePath.walk]
    congr 1
    refine List.flatMap_congr fun name hname => ?_
    obtain ⟨c, hc⟩ := h.mem_namesAt_iff.mp hname
    refine ih hc ?_
    rw [List.length_append, List.length_singleton]
    omega

theorem paths_eq_walk (h : w.Forest []) (hdepth : w.slots.size ≤ depth) :
    w.paths = PackagePath.walk w.namesAt depth [] := by
  have hsize : w.paths = PackagePath.walk w.namesAt w.slots.size [] := by
    have hmap : w.paths.map some = (PackagePath.walk w.namesAt w.slots.size []).map some := by
      rw [← h.map_path?_preorder, preorder, h.map_path?_preorderFrom find_nil]
    exact List.map_injective_iff.mpr (Option.some_injective _) hmap
  induction depth, hdepth using Nat.le_induction with
  | base => exact hsize
  | succ depth hle ih => rw [ih, h.walk_succ find_nil (by simpa using hle)]

end Forest

/-! ## What is listed -/

theorem packageCount_eq_countP (w : Workspace) :
    w.packageCount = (List.range w.slots.size).countP fun s => (w.node? s).isSome := by
  have hslots : w.slots.toList = (List.range w.slots.size).map w.node? := by
    refine List.ext_getElem (by simp) fun i hi _ => ?_
    have hlt : i < w.slots.size := by simpa using hi
    simp [node?, hlt]
  rw [packageCount, ← Array.countP_toList, hslots, List.countP_map]
  rfl

namespace Forest

theorem packages_eq (h : w.Forest []) : w.packages =
    w.paths.filterMap fun path => (w.contentAt path).map fun p => (path.render, p) := by
  rw [packages, paths, List.filterMap_filterMap]
  refine List.filterMap_congr fun s hs => ?_
  obtain ⟨n, hn⟩ := h.mem_preorder.mp hs
  obtain ⟨path, hf⟩ := h.find_of_live hn
  have hpath : w.path? s = some path := h.path?_eq_some_iff.mpr hf
  simp [hn, hpath, contentAt_of_find hf hn]

theorem packageCount_eq (h : w.Forest []) : w.packageCount = w.paths.length := by
  have hperm : ((List.range w.slots.size).filter fun s => (w.node? s).isSome).Perm w.preorder := by
    refine (List.perm_ext_iff_of_nodup (List.nodup_range.filter _) h.preorder_nodup).mpr ?_
    intro s
    rw [List.mem_filter, List.mem_range, h.mem_preorder, Option.isSome_iff_exists]
    constructor
    · exact fun hs => hs.2
    · rintro ⟨n, hn⟩
      exact ⟨lt_size_of_node? hn, n, hn⟩
  rw [packageCount_eq_countP, List.countP_eq_length_filter, hperm.length_eq, h.length_preorder]

theorem length_packages (h : w.Forest []) : w.packages.length = w.packageCount := by
  rw [h.packages_eq, List.length_filterMap_eq_countP, h.packageCount_eq]
  refine List.countP_eq_length.mpr fun path hpath => ?_
  rw [Option.isSome_map]
  exact h.contentAt_isSome_iff.mpr (h.mem_paths.mp hpath)

end Forest

/-! ## Workspaces that look the same -/

/-- Two workspaces with the same packages at the same paths and the same order of siblings. -/
structure Alike (w w' : Workspace) : Prop where
  contentAt (path : PackagePath) : w.contentAt path = w'.contentAt path
  namesAt (path : PackagePath) : w.namesAt path = w'.namesAt path

namespace Alike

theorem paths_eq (ha : Alike w w') (h : w.Forest []) (h' : w'.Forest []) :
    w.paths = w'.paths := by
  rw [h.paths_eq_walk (Nat.le_max_left _ w'.slots.size),
    h'.paths_eq_walk (Nat.le_max_right w.slots.size _), funext ha.namesAt]

theorem packages_eq (ha : Alike w w') (h : w.Forest []) (h' : w'.Forest []) :
    w.packages = w'.packages := by
  rw [h.packages_eq, h'.packages_eq, ha.paths_eq h h', funext ha.contentAt]

theorem packageCount_eq (ha : Alike w w') (h : w.Forest []) (h' : w'.Forest []) :
    w.packageCount = w'.packageCount := by
  rw [h.packageCount_eq, h'.packageCount_eq, ha.paths_eq h h']

end Alike

end Workspace

end BuildAtlas
