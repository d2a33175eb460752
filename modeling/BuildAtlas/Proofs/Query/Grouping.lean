import BuildAtlas.Proofs.Workspace.Items
import BuildAtlas.Session.Script

/-! # The index groups what the queries printed

When both queries end well, the tree of the index has the packages on the way to the printed
items and no others; each holds its own items at their first occurrence, and its children
stand in the order of their first mention.
-/
namespace BuildAtlas

namespace Workspace

/-- The packages named by targets and files, in the order in which they are indexed. -/
def mentions (targets : List Target) (files : List SourceFile) : List PackagePath :=
  targets.map (·.package) ++ files.map (·.owner)

/-- The tree has the targets and the files by package, and nothing else. -/
structure Groups (w : Workspace) (targets : List Target) (files : List SourceFile) : Prop where
  /-- Every node of the walk has a path, -/
  walk : w.preorder.map w.path? = w.paths.map some
  /-- no two of them the same, -/
  nodup : w.paths.Nodup
  /-- which is the one under which it is found, -/
  located : ∀ s path, w.path? s = some path ↔ w.find path = some s
  /-- and the paths are the root and all prefixes of what was mentioned. -/
  mem_paths : ∀ path, path ∈ w.paths ↔ path = [] ∨ ∃ m ∈ mentions targets files, path <+: m
  package : ∀ path ∈ w.paths, ∃ n, w.nodeAt path = some n ∧
    n.package.name = path.getLastD "/" ∧
    n.package.targets = (targets.filter (·.package = path)).eraseDups ∧
    n.package.files = (files.filter (·.owner = path)).eraseDups ∧
    n.children.map (·.1) =
      ((mentions targets files).filterMap (PackagePath.next? path)).eraseDups ∧
    ∀ e ∈ n.children, w.find (path ++ [e.1]) = some e.2

/-- Targets first, then files. -/
def itemsOf (targets : List Target) (files : List SourceFile) : List Item :=
  targets.map .target ++ files.map .file

variable (targets : List Target) (files : List SourceFile)

theorem ofItems_eq : ofItems targets files = empty.insertAll (itemsOf targets files) := by
  simp only [ofItems, insertAll, itemsOf, List.foldl_append, List.foldl_map]
  rfl

theorem forest_ofItems : (ofItems targets files).Forest [] := by
  rw [ofItems_eq]
  exact forest_empty.insertAll _

theorem map_home_itemsOf : (itemsOf targets files).map Item.home = mentions targets files := by
  simp only [itemsOf, mentions, List.map_append, List.map_map]
  rfl

theorem gather_itemsOf (path : PackagePath) :
    gather path (itemsOf targets files) =
      { name := path.getLastD "/"
        targets := (targets.filter (·.package = path)).eraseDups
        files := (files.filter (·.owner = path)).eraseDups } := by
  have htargets : (itemsOf targets files).filterMap Item.target? = targets := by
    simp [itemsOf, List.filterMap_append, List.filterMap_map, Function.comp_def, Item.target?]
  have hfiles : (itemsOf targets files).filterMap Item.file? = files := by
    simp [itemsOf, List.filterMap_append, List.filterMap_map, Function.comp_def, Item.file?]
  rw [gather, htargets, hfiles]

theorem mentioned_itemsOf {path : PackagePath} :
    Mentioned path (itemsOf targets files) ↔
      path = [] ∨ ∃ m ∈ mentions targets files, path <+: m := by
  rw [← map_home_itemsOf]
  simp [Mentioned]

theorem ofItems_groups : (ofItems targets files).Groups targets files := by
  have h := forest_ofItems targets files
  have hcontent := contentAt_insertAll (itemsOf targets files)
  have hnames := namesAt_insertAll (itemsOf targets files)
  rw [← ofItems_eq] at hcontent hnames
  have hmem : ∀ path, path ∈ (ofItems targets files).paths ↔
      Mentioned path (itemsOf targets files) := by
    intro path
    rw [h.mem_paths, ← h.contentAt_isSome_iff]
    by_cases hm : Mentioned path (itemsOf targets files)
    · simp [hm, (hcontent path).1 hm]
    · simp [hm, (hcontent path).2 hm]
  refine ⟨h.map_path?_preorder, h.paths_nodup, fun s path => h.path?_eq_some_iff,
    fun path => ?_, fun path hpath => ?_⟩
  · rw [hmem, mentioned_itemsOf]
  · obtain ⟨s, hs⟩ := h.mem_paths.mp hpath
    obtain ⟨n, hn⟩ := h.find_live hs
    have hpackage := (hcontent path).1 ((hmem path).mp hpath)
    rw [contentAt_of_find hs hn, gather_itemsOf] at hpackage
    have hchildren := hnames path
    rw [namesAt_of_find hs hn, map_home_itemsOf] at hchildren
    refine ⟨n, nodeAt_of_find hs hn, ?_, ?_, ?_, hchildren, fun e he => ?_⟩
    · exact congrArg Package.name (Option.some.inj hpackage)
    · exact congrArg Package.targets (Option.some.inj hpackage)
    · exact congrArg Package.files (Option.some.inj hpackage)
    · exact h.find_concat_iff.mpr ⟨s, hs, n, hn, he⟩

end Workspace

namespace Query
variable {σ : Type} {tool : Tool σ} {shell : Shell} {s : Settings} {st st' st'' : σ}
  {out src : Output}

theorem ask_of_succeeded {c : Command} (h : tool.run c st = (.ok out, st'))
    (hout : out.succeeded) : ask tool s c st = ⟨.ok out, st', []⟩ := by
  simp [ask, h, accept, exitNotes, hout]

theorem list_of_succeeded {α : Type} {c : Command} (opening what : String)
    (read : Output → Listing α) (h : tool.run c st = (.ok out, st')) (hout : out.succeeded) :
    (list tool s c opening what read st).result = .ok (read out) ∧
      (list tool s c opening what read st).tool = st' := by
  simp [list, ask_of_succeeded h hout]

/-- Two answers that ended well are always indexed. -/
theorem index_of_succeeded (ht : tool.run (targetCommand shell s) st = (.ok out, st'))
    (hf : tool.run (sourceCommand shell s) st' = (.ok src, st''))
    (hout : out.succeeded) (hsrc : src.succeeded) :
    (index tool shell s st).result =
      .ok (Index.ofListings (Listing.targets out) (Listing.sources src)) := by
  have htargets := list_of_succeeded (s := s) "Querying build targets" "build target"
    Listing.targets ht hout
  have hsources := list_of_succeeded (s := s) "Querying source files" "source file"
    Listing.sources hf hsrc
  simp only [index, targets, sources, htargets.1, htargets.2, hsources.1]
  rfl

/-- The index of two answers that ended well groups the items that their lines read as. -/
theorem index_groups_items (ht : tool.run (targetCommand shell s) st = (.ok out, st'))
    (hf : tool.run (sourceCommand shell s) st' = (.ok src, st''))
    (hout : out.succeeded) (hsrc : src.succeeded) :
    ∃ i, (index tool shell s st).result = .ok i ∧ i.workspace.Groups
      ((out.stdoutLines.filter fun line => !Text.allBlank line).filterMap Target.ofLine?)
      ((src.stdoutLines.filter fun line => !Text.allBlank line).filterMap SourceFile.ofLine?) :=
  ⟨_, index_of_succeeded ht hf hout hsrc, Workspace.ofItems_groups _ _⟩

/-- Repeated and unreadable lines among those of two packages. -/
def noisyTargets : Output :=
  .success "cc_binary rule //a/b:x\n\nnoise\njava_library rule //a:y\r\ncc_binary rule //a/b:x\n"

/-- A foreign label between two files. -/
def noisySources : Output := .success "//a/b:sub/f.cc\n@ext//z:g\n//c:h"

theorem index_groups_items_noisy :
    noisyTargets.succeeded ∧ noisySources.succeeded ∧
      ∃ i, (index Script.tool .posix {}
          { replies := [.output noisyTargets, .output noisySources] }).result = .ok i ∧
        i.workspace.Groups
          [⟨["a", "b"], "x", "cc_binary"⟩, ⟨["a"], "y", "java_library"⟩,
            ⟨["a", "b"], "x", "cc_binary"⟩]
          [⟨"f.cc", ["a", "b", "sub", "f.cc"], some ["a", "b"]⟩, ⟨"h", ["c", "h"], some ["c"]⟩] := by
  have hsources : noisySources.succeeded := rfl
  refine ⟨rfl, hsources, ?_⟩
  have ht : Script.tool.run (targetCommand .posix {})
      { replies := [.output noisyTargets, .output noisySources] } = (.ok noisyTargets, _) := rfl
  exact index_groups_items ht rfl rfl hsources

end Query

end BuildAtlas
