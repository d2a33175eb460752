import BuildAtlas.Proofs.Fixture.Lines
import BuildAtlas.Proofs.Query.Account

/-! # Generated workspaces have the size foretold

The listings of a generated workspace name each package as often as it has items, and those below a
top-level package one after another. So the tree of the index has a chain of packages for each of
the top-level ones, in the order in which they were generated, and every package has its own items,
which are all different. That holds as soon as packages have any items at all.
-/
namespace BuildAtlas

/-! ## Repetitions and blocks -/

namespace Package
variable {α β : Type} [DecidableEq α] [DecidableEq β] {xs ys : List α} {a : α}

theorem eraseDups_eq_self (h : xs.Nodup) : xs.eraseDups = xs := by
  induction xs using List.reverseRecOn with
  | nil => rfl
  | append_singleton xs a ih =>
    obtain ⟨hxs, -, hdisjoint⟩ := List.nodup_append'.mp h
    have ha : a ∉ xs := fun hmem => hdisjoint hmem List.mem_cons_self
    rw [eraseDups_concat, ih hxs, addOnce_of_not_mem ha]

theorem eraseDups_append_of_subset (h : ys ⊆ xs) : (xs ++ ys).eraseDups = xs.eraseDups := by
  have hnone : ys.removeAll xs = [] := by
    refine List.filter_eq_nil_iff.mpr fun y hy => ?_
    simpa using h hy
  rw [List.eraseDups_append, hnone]
  exact List.append_nil _

theorem eraseDups_append_replicate (k : Nat) :
    (xs ++ List.replicate (k + 1) a).eraseDups = (xs ++ [a]).eraseDups := by
  have hagain : List.replicate k a ⊆ xs ++ [a] := by
    intro b hb
    rw [List.eq_of_mem_replicate hb]
    simp
  rw [List.replicate_succ, ← List.singleton_append, ← List.append_assoc,
    eraseDups_append_of_subset hagain]

theorem eraseDups_eq_singleton (hne : xs ≠ []) (h : ∀ b ∈ xs, b = a) : xs.eraseDups = [a] := by
  obtain ⟨first, rest, rfl⟩ := List.exists_cons_of_ne_nil hne
  obtain rfl : first = a := h first List.mem_cons_self
  have hagain : rest ⊆ [first] := by
    intro b hb
    exact List.mem_singleton.mpr (h b (List.mem_cons_of_mem first hb))
  have honce : ([first] ++ rest).eraseDups = [first].eraseDups := eraseDups_append_of_subset hagain
  exact honce.trans (eraseDups_eq_self (List.nodup_singleton first))

omit [DecidableEq α] in
theorem eraseDups_filterMap_flatMap_replicate {k : Nat} (hk : 0 < k) (g : α → Option β)
    (xs : List α) : ((xs.flatMap (List.replicate k)).filterMap g).eraseDups =
      (xs.filterMap g).eraseDups := by
  obtain ⟨k, rfl⟩ := Nat.exists_eq_add_one_of_ne_zero (Nat.ne_of_gt hk)
  induction xs using List.reverseRecOn with
  | nil => rfl
  | append_singleton xs a ih =>
    rw [List.flatMap_append, List.flatMap_singleton, List.filterMap_append,
      List.filterMap_append]
    cases hg : g a with
    | none =>
      have hnone : (List.replicate (k + 1) a).filterMap g = [] := by simp [hg]
      have hnone' : [a].filterMap g = [] := by simp [hg]
      rw [hnone, hnone', List.append_nil, List.append_nil, ih]
    | some b =>
      have hsome : (List.replicate (k + 1) a).filterMap g = List.replicate (k + 1) b := by
        simp [hg]
      have hsome' : [a].filterMap g = [b] := by simp [hg]
      rw [hsome, hsome', eraseDups_append_replicate, eraseDups_concat, eraseDups_concat, ih]

omit [DecidableEq α] [DecidableEq β] in
/-- Of blocks with different keys, a key selects its own. -/
theorem filter_flatMap_block {κ : Type} [DecidableEq κ] {places : List α} {place : α}
    {home : α → κ} {key : β → κ} {block : α → List β} (hn : (places.map home).Nodup)
    (hkey : ∀ p, ∀ b ∈ block p, key b = home p) (hplace : place ∈ places) :
    (places.flatMap block).filter (key · = home place) = block place := by
  have hother : ∀ others : List α, home place ∉ others.map home →
      (others.flatMap block).filter (key · = home place) = [] := by
    intro others hout
    refine List.filter_eq_nil_iff.mpr fun b hb => ?_
    obtain ⟨p, hp, hb⟩ := List.mem_flatMap.mp hb
    rw [decide_eq_true_eq, hkey p b hb]
    exact fun he => hout (he ▸ List.mem_map_of_mem hp)
  have hown : (block place).filter (key · = home place) = block place :=
    List.filter_eq_self.mpr fun b hb => decide_eq_true (hkey place b hb)
  obtain ⟨before, after, rfl⟩ := List.append_of_mem hplace
  rw [List.map_append, List.map_cons, List.nodup_middle] at hn
  have hout := (List.nodup_cons.mp hn).1
  rw [List.mem_append, not_or] at hout
  rw [List.flatMap_append, List.flatMap_cons, List.filter_append, List.filter_append,
    hother before hout.1, hother after hout.2, hown, List.append_nil, List.nil_append]

end Package

/-! ## The packages on the way -/

namespace Fixture

section chains
variable {top top' d d' : Nat} {f : Fixture}

theorem chain_succ (top d : Nat) :
    chain top (d + 1) = chain top d ++ ["sub_" ++ toString d] := by
  rw [chain, chain, List.range_succ, List.map_append, List.map_singleton, List.cons_append]

theorem length_chain (top d : Nat) : (chain top d).length = d + 1 := by simp [chain]

theorem chain_prefix_of_le (h : d ≤ d') : chain top d <+: chain top d' := by
  induction d', h using Nat.le_induction with
  | base => exact List.prefix_rfl
  | succ d' _ ih => exact ih.trans (chain_succ top d' ▸ List.prefix_append ..)

theorem next?_chain : PackagePath.next? (chain top d) (chain top' d') =
    if top = top' ∧ d < d' then some ("sub_" ++ toString d) else none := by
  by_cases h : top = top' ∧ d < d'
  · obtain ⟨rfl, hlt⟩ := h
    rw [if_pos ⟨rfl, hlt⟩, PackagePath.next?_eq_some_iff, ← chain_succ]
    exact chain_prefix_of_le hlt
  · rw [if_neg h]
    refine Option.eq_none_iff_forall_ne_some.mpr fun name hname => h ?_
    have hprefix := PackagePath.next?_eq_some_iff.mp hname
    have hlength := hprefix.length_le
    rw [List.length_append, length_chain, length_chain, List.length_singleton] at hlength
    have hfirst : "pkg_" ++ toString top = "pkg_" ++ toString top' :=
      (List.cons_prefix_cons.mp hprefix).1
    exact ⟨append_toString_injective "pkg_" hfirst, by omega⟩

/-- The names below each path as the packages mention them, first mention first. -/
def namesIn (packages : List PackagePath) (path : PackagePath) : List String :=
  (packages.filterMap (PackagePath.next? path)).eraseDups

theorem namesIn_nil (f : Fixture) :
    namesIn f.packages [] = (List.range f.topLevel).map fun top => "pkg_" ++ toString top := by
  have htops : f.packages.filterMap (PackagePath.next? []) =
      ((List.range f.topLevel).flatMap (List.replicate (f.depth + 1))).filterMap
        fun top => some ("pkg_" ++ toString top) := by
    rw [packages, List.filterMap_flatMap, List.filterMap_flatMap]
    refine List.flatMap_congr fun top _ => ?_
    have hnext : PackagePath.next? [] ∘ chain top = fun _ => some ("pkg_" ++ toString top) := rfl
    rw [List.filterMap_map, hnext]
    simp
  have hnodup : ((List.range f.topLevel).map fun top => "pkg_" ++ toString top).Nodup :=
    List.nodup_range.map (append_toString_injective "pkg_")
  rw [namesIn, htops, Package.eraseDups_filterMap_flatMap_replicate (Nat.succ_pos _),
    List.filterMap_eq_map', Package.eraseDups_eq_self hnodup]

theorem namesIn_chain (htop : top < f.topLevel) (hd : d < f.depth) :
    namesIn f.packages (chain top d) = ["sub_" ++ toString d] := by
  have hnext : PackagePath.next? (chain top d) (chain top f.depth) =
      some ("sub_" ++ toString d) := by rw [next?_chain, if_pos ⟨rfl, hd⟩]
  have hmem := List.mem_filterMap.mpr
    ⟨chain top f.depth, mem_packages.mpr ⟨top, htop, f.depth, Nat.le_refl _, rfl⟩, hnext⟩
  refine Package.eraseDups_eq_singleton (List.ne_nil_of_mem hmem) fun name hname => ?_
  obtain ⟨path, hpath, hname⟩ := List.mem_filterMap.mp hname
  obtain ⟨top', -, d', -, rfl⟩ := mem_packages.mp hpath
  rw [next?_chain] at hname
  split at hname
  · exact (Option.some.inj hname).symm
  · cases hname

theorem namesIn_chain_depth (f : Fixture) (top : Nat) :
    namesIn f.packages (chain top f.depth) = [] := by
  have hnone : f.packages.filterMap (PackagePath.next? (chain top f.depth)) = [] := by
    refine List.filterMap_eq_nil_iff.mpr fun path hpath => ?_
    obtain ⟨top', -, d', hd', rfl⟩ := mem_packages.mp hpath
    rw [next?_chain, if_neg fun h => Nat.not_lt.mpr hd' h.2]
  rw [namesIn, hnone]
  rfl

theorem walk_chain (htop : top < f.topLevel) (m : Nat) {fuel d : Nat} (hd : d + m = f.depth)
    (hfuel : m < fuel) : PackagePath.walk (namesIn f.packages) fuel (chain top d) =
      (List.range' d (m + 1)).map (chain top) := by
  -- on the number of packages further down, of which each but the last has one below it
  induction m generalizing fuel d with
  | zero =>
    obtain ⟨fuel, rfl⟩ := Nat.exists_eq_add_one_of_ne_zero (Nat.ne_of_gt hfuel)
    obtain rfl : d = f.depth := hd
    rw [PackagePath.walk, namesIn_chain_depth]
    rfl
  | succ m ih =>
    obtain ⟨fuel, rfl⟩ : ∃ k, fuel = k + 1 := ⟨fuel - 1, by omega⟩
    have hbelow := ih (by omega : d + 1 + m = f.depth) (by omega : m < fuel)
    have hrange : List.range' d (m + 1 + 1) = d :: List.range' (d + 1) (m + 1) :=
      List.range'_succ
    rw [PackagePath.walk, namesIn_chain htop (by omega), List.flatMap_singleton, ← chain_succ,
      hbelow, hrange, List.map_cons]

theorem walk_packages (f : Fixture) {fuel : Nat} (hfuel : f.depth + 1 < fuel) :
    PackagePath.walk (namesIn f.packages) fuel [] = [] :: f.packages := by
  obtain ⟨fuel, rfl⟩ : ∃ k, fuel = k + 1 := ⟨fuel - 1, by omega⟩
  have hchains : ((List.range f.topLevel).flatMap fun top => PackagePath.walk
      (namesIn f.packages) fuel (chain top 0)) = f.packages := by
    refine List.flatMap_congr fun top htop => ?_
    rw [List.range_eq_range']
    exact walk_chain (List.mem_range.mp htop) f.depth (Nat.zero_add _) (by omega)
  rw [PackagePath.walk, namesIn_nil, List.flatMap_map]
  exact congrArg ([] :: ·) hchains

end chains

/-! ## What is mentioned -/

section mentions
variable (f : Fixture)

theorem map_package_targets : f.targets.map Target.package =
    f.packages.flatMap (List.replicate f.targetsPerPackage) := by
  have hblock : ∀ place, (f.targetsIn place).map Target.package =
      List.replicate f.targetsPerPackage place.1 := by
    intro place
    have hplace : Target.package ∘ (fun t => (⟨place.1, "target_" ++ toString t,
        kind (place.2 + t)⟩ : Target)) = fun _ => place.1 := rfl
    rw [targetsIn, List.map_map, hplace, List.map_const', List.length_range]
  rw [targets, List.map_flatMap]
  simp only [hblock]
  conv_rhs => rw [← List.zipIdx_map_fst 0 f.packages, List.flatMap_map]

theorem map_owner_files : f.files.map SourceFile.owner =
    f.packages.flatMap (List.replicate f.filesPerPackage) := by
  rw [files, List.map_flatMap]
  refine List.flatMap_congr fun package _ => ?_
  have hpackage : SourceFile.owner ∘ (fun n => SourceFile.inPackage package (fileName n)) =
      fun _ => package := rfl
  rw [filesIn, List.map_map, hpackage, List.map_const', List.length_range]

variable {f} in
/-- The two listings together mention the same packages as one of them, in the same order. -/
theorem namesIn_mentions (h : 0 < f.targetsPerPackage ∨ 0 < f.filesPerPackage) :
    namesIn (Workspace.mentions f.targets f.files) = namesIn f.packages := by
  funext path
  rw [namesIn, Workspace.mentions, map_package_targets, map_owner_files]
  rcases Nat.eq_zero_or_pos f.targetsPerPackage with hnone | hpos
  · have hempty : f.packages.flatMap (List.replicate f.targetsPerPackage) = [] := by
      simp [hnone]
    rw [hempty, List.nil_append]
    exact Package.eraseDups_filterMap_flatMap_replicate (by omega) _ _
  · have hagain : f.packages.flatMap (List.replicate f.filesPerPackage) ⊆
        f.packages.flatMap (List.replicate f.targetsPerPackage) := by
      intro package hpackage
      obtain ⟨package', hmem, hpackage⟩ := List.mem_flatMap.mp hpackage
      rw [List.eq_of_mem_replicate hpackage]
      exact List.mem_flatMap.mpr ⟨package', hmem, List.mem_replicate.mpr ⟨by omega, rfl⟩⟩
    rw [List.filterMap_append, Package.eraseDups_append_of_subset (List.filterMap_subset _ hagain)]
    exact Package.eraseDups_filterMap_flatMap_replicate hpos _ _

end mentions

/-! ## The tree -/

section tree
variable (f : Fixture)

def workspace : Workspace := .ofItems f.targets f.files

theorem nodup_targetsIn (place : PackagePath × Nat) : (f.targetsIn place).Nodup := by
  refine List.nodup_range.map fun m n h => ?_
  have hname : "target_" ++ toString m = "target_" ++ toString n := congrArg Target.name h
  exact append_toString_injective "target_" hname

theorem nodup_filesIn (path : PackagePath) : (f.filesIn path).Nodup := by
  refine List.nodup_range.map fun m n h => ?_
  have hname : fileName m = fileName n :=
    ((SourceFile.inPackage_inj (isWord_fileName m).isName (isWord_fileName n).isName).mp h).2
  have hnumbered : "file_" ++ toString m = "file_" ++ toString n :=
    (String.append_left_inj ".cc").mp hname
  exact append_toString_injective "file_" hnumbered

variable {f} {path : PackagePath} {place : PackagePath × Nat}
  (h : 0 < f.targetsPerPackage ∨ 0 < f.filesPerPackage)
include h

theorem paths_workspace : f.workspace.paths = [] :: f.packages := by
  have hforest := Workspace.forest_ofItems f.targets f.files
  have hnames : f.workspace.namesAt = namesIn f.packages := by
    rw [← namesIn_mentions h]
    funext path
    rw [workspace, Workspace.ofItems_eq, Workspace.namesAt_insertAll,
      Workspace.map_home_itemsOf]
    rfl
  have hdeep : f.workspace.slots.size ≤ f.workspace.slots.size + (f.depth + 2) := by omega
  have hwalk : f.workspace.paths = PackagePath.walk f.workspace.namesAt _ [] :=
    hforest.paths_eq_walk hdeep
  rw [hwalk, hnames, walk_packages f (by omega)]

theorem nodup_packages : f.packages.Nodup := by
  have hnodup := (Workspace.forest_ofItems f.targets f.files).paths_nodup
  rw [← workspace, paths_workspace h] at hnodup
  exact hnodup.of_cons

theorem filter_targets (hplace : place ∈ f.packages.zipIdx) :
    f.targets.filter (·.package = place.1) = f.targetsIn place := by
  have hn : (f.packages.zipIdx.map Prod.fst).Nodup :=
    (List.zipIdx_map_fst 0 f.packages).symm ▸ nodup_packages h
  refine Package.filter_flatMap_block hn (fun p t ht => ?_) hplace
  obtain ⟨n, -, rfl⟩ := List.mem_map.mp ht
  rfl

theorem filter_files (hpath : path ∈ f.packages) :
    f.files.filter (·.owner = path) = f.filesIn path := by
  have hn : (f.packages.map id).Nodup := (List.map_id f.packages).symm ▸ nodup_packages h
  refine Package.filter_flatMap_block hn (fun package file hfile => ?_) hpath
  obtain ⟨n, -, rfl⟩ := List.mem_map.mp hfile
  rfl

/-- A generated package holds its own items, none of them twice. -/
theorem exists_gather_eq (hpath : path ∈ f.packages) : ∃ p,
      (Workspace.gather path (Workspace.itemsOf f.targets f.files)).targets =
        f.targetsIn (path, p) ∧
      (Workspace.gather path (Workspace.itemsOf f.targets f.files)).files = f.filesIn path := by
  obtain ⟨place, hplace, rfl⟩ : ∃ place ∈ f.packages.zipIdx, place.1 = path :=
    List.mem_map.mp ((List.zipIdx_map_fst 0 f.packages).symm ▸ hpath)
  refine ⟨place.2, ?_, ?_⟩
  · rw [Workspace.gather_itemsOf, filter_targets h hplace]
    exact Package.eraseDups_eq_self (f.nodup_targetsIn place)
  · rw [Workspace.gather_itemsOf, filter_files h hpath]
    exact Package.eraseDups_eq_self (f.nodup_filesIn place.1)

end tree

/-! ## The index -/

/-- An index of the size that is foretold for a generated workspace. -/
structure Measures (f : Fixture) (i : Index) : Prop where
  stats : i.stats = ⟨f.expectedTargets, f.expectedFiles, 0, f.expectedPackages⟩
  paths : i.workspace.paths = [] :: f.packages
  listed : i.workspace.packages.map Prod.fst = "//" :: f.packagePaths.map ("//" ++ ·)
  filled : ∀ entry ∈ i.workspace.packages, entry.1 ≠ "//" →
    entry.2.targets.length = f.targetsPerPackage ∧ entry.2.files.length = f.filesPerPackage

section index
variable {f : Fixture}

theorem length_packages (f : Fixture) : f.packages.length = f.topLevel * (1 + f.depth) := by
  simp [packages, List.length_flatMap, List.map_const', Nat.add_comm]

theorem length_targets (f : Fixture) : f.targets.length = f.expectedTargets := by
  simp [targets, targetsIn, expectedTargets, List.length_flatMap, List.map_const']

theorem length_files (f : Fixture) : f.files.length = f.expectedFiles := by
  simp [files, filesIn, expectedFiles, List.length_flatMap, List.map_const']

theorem measures_ofListings (h : 0 < f.targetsPerPackage ∨ 0 < f.filesPerPackage) :
    f.Measures (.ofListings ⟨f.targets, []⟩ ⟨f.files, []⟩) := by
  have hpaths : (Workspace.ofItems f.targets f.files).paths = [] :: f.packages :=
    paths_workspace h
  have hpackages := Workspace.packages_ofItems f.targets f.files
  constructor <;> simp only [Index.ofListings]
  case stats =>
    have hcount : f.packages.length + 1 = f.expectedPackages := by
      rw [length_packages, expectedPackages, Nat.add_comm]
    rw [(Workspace.forest_ofItems _ _).packageCount_eq, hpaths, List.length_cons, hcount,
      length_targets, length_files]
    rfl
  case paths => exact hpaths
  case listed =>
    rw [hpackages, hpaths, List.map_map, List.map_cons, packagePaths, List.map_map]
    rfl
  case filled =>
    intro entry hentry hroot
    rw [hpackages, hpaths] at hentry
    obtain ⟨path, hpath, rfl⟩ := List.mem_map.mp hentry
    rcases List.mem_cons.mp hpath with rfl | hpath
    · exact absurd rfl hroot
    · obtain ⟨p, htargets, hfiles⟩ := exists_gather_eq h hpath
      simp only [htargets, hfiles, targetsIn, filesIn, List.length_map, List.length_range,
        and_self]

end index

end Fixture

namespace Query
variable {σ : Type} {tool : Tool σ} {shell : Shell} {s : Settings} {st st' st'' : σ}
  {out src : Output} {f : Fixture}

/-- The listings of a generated workspace are indexed without a skipped line, in a tree of the
packages that were generated, each with as many items as were generated for it. -/
theorem index_measures_generated (hitems : 0 < f.targetsPerPackage ∨ 0 < f.filesPerPackage)
    (ht : tool.run (targetCommand shell s) st = (.ok out, st'))
    (hf : tool.run (sourceCommand shell s) st' = (.ok src, st''))
    (hout : out.succeeded) (hsrc : src.succeeded)
    (htargets : out.stdout = f.targetListing) (hsources : src.stdout = f.sourceListing) :
    ∃ i, (index tool shell s st).result = .ok i ∧ f.Measures i := by
  refine ⟨_, index_of_succeeded ht hf hout hsrc, ?_⟩
  rw [f.targets_of_stdout htargets, f.sources_of_stdout hsources]
  exact Fixture.measures_ofListings hitems

theorem index_measures_small :
    let prepared : Script := { replies := [.output (.success Fixture.small.targetListing),
      .output (.success Fixture.small.sourceListing)] }
    ∃ i, (index Script.tool .posix {} prepared).result = .ok i ∧ i.stats = ⟨12, 12, 0, 7⟩ ∧
      i.workspace.packages.map Prod.fst = ["//", "//pkg_0", "//pkg_0/sub_0", "//pkg_1",
        "//pkg_1/sub_0", "//pkg_2", "//pkg_2/sub_0"] := by
  intro prepared
  have ht : Script.tool.run (targetCommand .posix {}) prepared =
      (.ok (.success Fixture.small.targetListing), _) := rfl
  have hitems : 0 < Fixture.small.targetsPerPackage ∨ 0 < Fixture.small.filesPerPackage :=
    .inl (by decide)
  obtain ⟨i, hi, hmeasures⟩ := index_measures_generated hitems ht rfl rfl rfl rfl rfl
  refine ⟨i, hi, hmeasures.stats, ?_⟩
  rw [hmeasures.listed]
  decide +kernel

end Query

end BuildAtlas
