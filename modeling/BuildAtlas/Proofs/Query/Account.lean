import BuildAtlas.Proofs.Query.Legible
import BuildAtlas.Proofs.Workspace.Shuffled
import Mathlib.Data.Finset.Card
import Mathlib.Data.List.Dedup
import Mathlib.Data.List.Infix

/-! # The counts of an index

An index counts the items that were read, the lines that were not, and its packages. Each line that
is not blank is counted once. Items that are printed twice are stored once, so that the packages
store together what is left of the items without repetitions; and there is one package, apart from
the root, for each path on the way to an item.
-/
namespace BuildAtlas

/-- The paths on the way to some packages, apart from the root. -/
def PackagePath.ways (paths : List PackagePath) : Finset PackagePath :=
  (paths.flatMap List.inits).toFinset.erase []

theorem PackagePath.mem_ways {paths : List PackagePath} {path : PackagePath} :
    path ∈ ways paths ↔ path ≠ [] ∧ ∃ m ∈ paths, path <+: m := by
  simp [ways]

namespace Workspace

def allTargets (w : Workspace) : List Target := w.packages.flatMap fun entry => entry.2.targets

def allFiles (w : Workspace) : List SourceFile := w.packages.flatMap fun entry => entry.2.files

end Workspace

def ReadApart {α : Type} (parse : String → Option α) (lines : List String) : Prop :=
  lines.Pairwise fun a b => ∀ item, parse a = some item → parse b ≠ some item

/-- The counts of an index add up to the lines that were printed for it. -/
structure Index.AccountsFor (i : Index) (targetLines sourceLines : List String) : Prop where
  lines : i.stats.targets + i.stats.files + i.stats.skipped =
    (targetLines ++ sourceLines).countP fun line => !Text.allBlank line
  targets : i.stats.targets = targetLines.countP fun line => (Target.ofLine? line).isSome
  files : i.stats.files = sourceLines.countP fun line => (SourceFile.ofLine? line).isSome
  live : i.stats.packages = i.workspace.packageCount
  listed : i.stats.packages = i.workspace.packages.length
  ways : i.stats.packages = 1 + (PackagePath.ways (Workspace.mentions
    (targetLines.filterMap Target.ofLine?) (sourceLines.filterMap SourceFile.ofLine?))).card
  targetsStored : i.workspace.allTargets.length ≤ i.stats.targets ∧
    (i.workspace.allTargets.length = i.stats.targets ↔ ReadApart Target.ofLine? targetLines)
  filesStored : i.workspace.allFiles.length ≤ i.stats.files ∧
    (i.workspace.allFiles.length = i.stats.files ↔ ReadApart SourceFile.ofLine? sourceLines)

/-! ## Lines -/

namespace Listing
variable {α : Type} {parse : String → Option α} {lines : List String}

theorem length_items_add_length_skipped (parse : String → Option α) (lines : List String) :
    (read parse lines).items.length + (read parse lines).skipped.length =
      lines.countP fun line => !Text.allBlank line := by
  have hsplit := (lines.filter fun line => !Text.allBlank line).length_eq_length_filter_add
    fun line => (parse line).isSome
  rw [read, List.countP_eq_length_filter, List.length_filterMap_eq_countP,
    List.countP_eq_length_filter, hsplit]
  simp

end Listing

theorem readApart_iff {α : Type} {parse : String → Option α} {lines : List String} :
    ReadApart parse lines ↔ (lines.filterMap parse).Nodup := by
  rw [List.Nodup, List.pairwise_filterMap]
  refine ⟨fun h => h.imp ?_, fun h => h.imp ?_⟩
  · rintro a b hab x hx y hy rfl
    exact hab x hx hy
  · exact fun hab x hx hy => hab x hx x hy rfl

/-! ## Items stored in packages -/

section classes
variable {α κ : Type} [DecidableEq α] [DecidableEq κ] {key : α → κ} {keys : List κ}
  {items : List α}

/-- What is left of the items under each key is together what is left of all of them. -/
theorem flatMap_classes_perm (hkeys : keys.Nodup) (hmem : ∀ a ∈ items, key a ∈ keys) :
    (keys.flatMap fun k => (items.filter (key · = k)).eraseDups).Perm items.dedup := by
  -- an item stands under its own key alone, so both lists have each item once
  have hnodup : (keys.flatMap fun k => (items.filter (key · = k)).eraseDups).Nodup := by
    refine List.nodup_flatMap.mpr ⟨fun k _ => Package.nodup_eraseDups _, hkeys.imp ?_⟩
    intro k k' hne a ha ha'
    simp only [List.mem_eraseDups, List.mem_filter, decide_eq_true_eq] at ha ha'
    exact hne (ha.2.symm.trans ha'.2)
  refine (List.perm_ext_iff_of_nodup hnodup (List.nodup_dedup items)).mpr fun a => ?_
  simp only [List.mem_flatMap, List.mem_eraseDups, List.mem_filter, decide_eq_true_eq,
    List.mem_dedup]
  exact ⟨fun ⟨_, _, ha, _⟩ => ha, fun ha => ⟨key a, hmem a ha, ha, rfl⟩⟩

theorem length_dedup_eq_iff : items.dedup.length = items.length ↔ items.Nodup :=
  ⟨fun h => List.dedup_eq_self.mp ((List.dedup_sublist items).eq_of_length h),
    fun h => congrArg List.length (List.dedup_eq_self.mpr h)⟩

end classes

namespace Workspace
variable (targets : List Target) (files : List SourceFile)

theorem packages_ofItems : (ofItems targets files).packages =
    (ofItems targets files).paths.map fun path =>
      (path.render, gather path (itemsOf targets files)) := by
  rw [(forest_ofItems targets files).packages_eq, ← List.filterMap_eq_map]
  refine List.filterMap_congr fun path hpath => ?_
  have hmentioned := mentioned_itemsOf targets files |>.mpr
    (((ofItems_groups targets files).mem_paths path).mp hpath)
  rw [ofItems_eq, (contentAt_insertAll _ path).1 hmentioned]
  rfl

/-- Of items that each have a package, the packages store together what is left of them. -/
theorem stored_ofItems_perm {α : Type} [DecidableEq α] (key : α → PackagePath)
    {stored : Package → List α} {items : List α}
    (hkey : ∀ a ∈ items, key a ∈ mentions targets files)
    (hstored : ∀ path, stored (gather path (itemsOf targets files)) =
      (items.filter (key · = path)).eraseDups) :
    ((ofItems targets files).packages.flatMap fun entry => stored entry.2).Perm items.dedup := by
  have hpaths : ∀ a ∈ items, key a ∈ (ofItems targets files).paths := fun a ha =>
    ((ofItems_groups targets files).mem_paths _).mpr (.inr ⟨_, hkey a ha, List.prefix_rfl⟩)
  have hclasses := flatMap_classes_perm (forest_ofItems targets files).paths_nodup hpaths
  rw [packages_ofItems, List.flatMap_map]
  simpa only [hstored] using hclasses

theorem allTargets_ofItems_perm : (ofItems targets files).allTargets.Perm targets.dedup := by
  refine stored_ofItems_perm targets files Target.package (fun t ht => ?_) fun path => ?_
  · exact List.mem_append_left _ (List.mem_map_of_mem ht)
  · rw [gather_itemsOf]

theorem allFiles_ofItems_perm : (ofItems targets files).allFiles.Perm files.dedup := by
  refine stored_ofItems_perm targets files SourceFile.owner (fun f hf => ?_) fun path => ?_
  · exact List.mem_append_right _ (List.mem_map_of_mem hf)
  · rw [gather_itemsOf]

theorem packageCount_ofItems : (ofItems targets files).packageCount =
    1 + (PackagePath.ways (mentions targets files)).card := by
  have hforest := forest_ofItems targets files
  have hroot : [] ∉ PackagePath.ways (mentions targets files) := by
    simp [PackagePath.mem_ways]
  have hpaths : (ofItems targets files).paths.toFinset = Finset.cons [] _ hroot := by
    ext path
    rw [List.mem_toFinset, (ofItems_groups targets files).mem_paths, Finset.mem_cons,
      PackagePath.mem_ways]
    by_cases he : path = [] <;> simp [he]
  rw [hforest.packageCount_eq, ← List.toFinset_card_of_nodup hforest.paths_nodup, hpaths,
    Finset.card_cons, Nat.add_comm]

end Workspace

/-! ## Counts -/

theorem Index.accountsFor_read (targetLines sourceLines : List String) :
    (ofListings (.read Target.ofLine? targetLines)
      (.read SourceFile.ofLine? sourceLines)).AccountsFor targetLines sourceLines := by
  have htargets : (Listing.read Target.ofLine? targetLines).items =
      targetLines.filterMap Target.ofLine? :=
    Listing.items_read fun _ => Target.ofLine?_of_allBlank
  have hfiles : (Listing.read SourceFile.ofLine? sourceLines).items =
      sourceLines.filterMap SourceFile.ofLine? :=
    Listing.items_read fun _ => SourceFile.ofLine?_of_allBlank
  constructor <;> simp only [ofListings]
  case lines =>
    have hlines := Listing.length_items_add_length_skipped Target.ofLine? targetLines
    have hmore := Listing.length_items_add_length_skipped SourceFile.ofLine? sourceLines
    rw [List.countP_append]
    omega
  case targets => rw [htargets, List.length_filterMap_eq_countP]
  case files => rw [hfiles, List.length_filterMap_eq_countP]
  case listed => exact (Workspace.forest_ofItems _ _).length_packages.symm
  case ways => rw [Workspace.packageCount_ofItems, htargets, hfiles]
  case targetsStored =>
    rw [(Workspace.allTargets_ofItems_perm _ _).length_eq, readApart_iff, ← htargets]
    exact ⟨(List.dedup_sublist _).length_le, length_dedup_eq_iff⟩
  case filesStored =>
    rw [(Workspace.allFiles_ofItems_perm _ _).length_eq, readApart_iff, ← hfiles]
    exact ⟨(List.dedup_sublist _).length_le, length_dedup_eq_iff⟩

namespace Query
variable {σ : Type} {tool : Tool σ} {shell : Shell} {s : Settings} {st st' st'' : σ}
  {out src : Output}

/-- Two answers that ended well are indexed, and the counts account for every line of them. -/
theorem index_accounts_for_lines (ht : tool.run (targetCommand shell s) st = (.ok out, st'))
    (hf : tool.run (sourceCommand shell s) st' = (.ok src, st''))
    (hout : out.succeeded) (hsrc : src.succeeded) :
    ∃ i, (index tool shell s st).result = .ok i ∧
      i.AccountsFor out.stdoutLines src.stdoutLines :=
  ⟨_, index_of_succeeded ht hf hout hsrc, Index.accountsFor_read _ _⟩

/-- A target that is printed twice, an unreadable line, a blank one and a foreign label. -/
theorem index_accounts_for_lines_noisy :
    noisyTargets.succeeded ∧ noisySources.succeeded ∧
      ∃ i, (index Script.tool .posix {}
          { replies := [.output noisyTargets, .output noisySources] }).result = .ok i ∧
        i.AccountsFor noisyTargets.stdoutLines noisySources.stdoutLines ∧
        i.stats = { targets := 3, files := 2, skipped := 2, packages := 4 } ∧
        i.workspace.allTargets.length = 2 ∧ i.workspace.allFiles.length = 2 := by
  have hsources : noisySources.succeeded := rfl
  have ht : Script.tool.run (targetCommand .posix {})
      { replies := [.output noisyTargets, .output noisySources] } = (.ok noisyTargets, _) := rfl
  obtain ⟨i, hi, haccounts⟩ := index_accounts_for_lines ht rfl rfl hsources
  refine ⟨rfl, hsources, i, hi, haccounts, ?_⟩
  obtain rfl := Except.ok.inj ((index_of_succeeded ht rfl rfl hsources).symm.trans hi)
  decide +kernel

end Query

end BuildAtlas
