import BuildAtlas.Proofs.Workspace.Erasure
import BuildAtlas.Proofs.Workspace.Items
import BuildAtlas.Proofs.Workspace.Listing

/-! # Clearing and inserting again

What a clearing takes away at and below a path is what the items at home there had brought, and
inserting them again in their old order brings it back. Everywhere else they find all that they
need, so they change nothing there.
-/
namespace BuildAtlas.Workspace
variable {w cleared : Workspace} {items : List Item} {base q : PackagePath} {text : String}

/-- The items at home at or below a path, in their order. -/
def itemsBelow (base : PackagePath) (items : List Item) : List Item :=
  items.filter fun i => base <+: i.home

theorem mem_itemsBelow {i : Item} : i ∈ itemsBelow base items ↔ i ∈ items ∧ base <+: i.home := by
  simp [itemsBelow]

/-! ## At and below the path -/

section below
variable (items) (hq : base <+: q)
include hq

theorem awaited_itemsBelow : awaited (itemsBelow base items) q = awaited items q := by
  have hiff : (∃ i ∈ itemsBelow base items, q <+: i.home) ↔ ∃ i ∈ items, q <+: i.home := by
    constructor
    · rintro ⟨i, hi, hp⟩
      exact ⟨i, (mem_itemsBelow.mp hi).1, hp⟩
    · rintro ⟨i, hi, hp⟩
      exact ⟨i, mem_itemsBelow.mpr ⟨hi, hq.trans hp⟩, hp⟩
  simp only [awaited, hiff]

theorem fill_itemsBelow : fill (itemsBelow base items) q = fill items q := by
  funext p
  rw [fill, fill, itemsBelow, List.filter_filter]
  congr 1
  refine List.filter_congr fun i _ => ?_
  by_cases hi : i.home = q
  · subst hi
    simp [hq]
  · simp [hi]

theorem next?_itemsBelow : ((itemsBelow base items).map Item.home).filterMap (PackagePath.next? q) =
    (items.map Item.home).filterMap (PackagePath.next? q) := by
  rw [List.filterMap_map, List.filterMap_map, itemsBelow, List.filterMap_filter]
  refine List.filterMap_congr fun i _ => ?_
  cases hn : PackagePath.next? q i.home with
  | none => simp [hn]
  | some name =>
    -- an item that goes on below `q` is at home below the path as well
    have hp : base <+: i.home := by
      have hnext := PackagePath.next?_eq_some_iff.mp hn
      exact hq.trans ((List.prefix_append q [name]).trans hnext)
    simp [hn, hp]

end below

/-! ## Elsewhere -/

section elsewhere
variable {s : Slot} (h : w.Forest []) (hs : w.find base = some s) (hq : ¬ base <+: q)
include hq

/-- An item at or below the path that passes another one passes it on the way to the path. -/
theorem prefix_of_itemsBelow {i : Item} (hi : i ∈ itemsBelow base items) (hp : q <+: i.home) :
    q <+: base :=
  (List.prefix_or_prefix_of_prefix hp (mem_itemsBelow.mp hi).2).resolve_right hq

include h hs

theorem Forest.contentAt_insert_itemsBelow :
    (w.insertAll (itemsBelow base items)).contentAt q = w.contentAt q := by
  have hfilter : (itemsBelow base items).filter (·.home = q) = [] := by
    refine List.filter_eq_nil_iff.mpr fun i hi he => hq ?_
    exact of_decide_eq_true he ▸ (mem_itemsBelow.mp hi).2
  have hfill : fill (itemsBelow base items) q = id := by
    funext p
    rw [fill, hfilter, List.foldl_nil, id_eq]
  rw [h.contentAt_insertAll, hfill, Option.map_id_apply]
  by_cases hm : ∃ i ∈ itemsBelow base items, q <+: i.home
  · obtain ⟨i, hi, hp⟩ := hm
    have hfound := find_of_above hs (prefix_of_itemsBelow hq hi hp)
    exact Option.or_of_isSome (h.contentAt_isSome_iff.mpr hfound)
  · rw [awaited, if_neg hm, Option.or_none]

theorem Forest.namesAt_insert_itemsBelow :
    (w.insertAll (itemsBelow base items)).namesAt q = w.namesAt q := by
  have hmem : ∀ name ∈ ((itemsBelow base items).map Item.home).filterMap (PackagePath.next? q),
      name ∈ w.namesAt q := by
    intro name hname
    obtain ⟨home, hhome, hn⟩ := List.mem_filterMap.mp hname
    obtain ⟨i, hi, rfl⟩ := List.mem_map.mp hhome
    have hnext := PackagePath.next?_eq_some_iff.mp hn
    -- the path itself goes on with that name, and it leads somewhere
    have hp : q ++ [name] <+: base := by
      rcases List.prefix_or_prefix_of_prefix hnext (mem_itemsBelow.mp hi).2 with hp | hp
      · exact hp
      · rcases List.prefix_concat_iff.mp hp with rfl | hbelow
        · exact List.prefix_rfl
        · exact absurd hbelow hq
    exact h.mem_namesAt_iff.mpr (find_of_above hs hp)
  rw [h.namesAt_insertAll]
  generalize ((itemsBelow base items).map Item.home).filterMap (PackagePath.next? q) = names at hmem
  induction names with
  | nil => rfl
  | cons name names ih =>
    rw [List.foldl_cons, Package.addOnce_of_mem (hmem name List.mem_cons_self)]
    exact ih fun name hname => hmem name (List.mem_cons_of_mem _ hname)

end elsewhere

/-! ## What was cleared -/

theorem emptied_fill (p : Package) : (fill items q p).emptied = p.emptied := by
  have haddTo : ∀ (i : Item) (p : Package), (i.addTo p).emptied = p.emptied := by
    intro i p
    cases i <;> rfl
  rw [fill]
  induction items.filter (·.home = q) generalizing p with
  | nil => rfl
  | cons i rest ih => rw [List.foldl_cons, ih, haddTo]

/-- Emptied, a package is as it was when it was put there. -/
theorem map_emptied_insertAll (items : List Item) (q : PackagePath) :
    ((empty.insertAll items).contentAt q).map Package.emptied =
      (empty.contentAt q).or (awaited items q) := by
  rw [forest_empty.contentAt_insertAll, Option.map_map]
  have huntouched : ∀ p, (empty.contentAt q).or (awaited items q) = some p → p.emptied = p := by
    intro p hp
    rw [contentAt_empty, awaited] at hp
    split at hp
    · cases hp
      rfl
    · split at hp <;> cases hp
      rfl
  cases hfirst : (empty.contentAt q).or (awaited items q) with
  | none => rfl
  | some p => rw [Option.map_some, Function.comp_apply, emptied_fill, huntouched p hfirst]

section cleared
variable (he : (empty.insertAll items).clearBelow text = .ok cleared)
include he

theorem exists_find_cleared : ∃ s, cleared.find (.read text) = some s := by
  have hbuilt : (empty.insertAll items).Forest [] := forest_empty.insertAll items
  have hfound := hbuilt.clearBelow_isOk_iff.mp ⟨cleared, he⟩
  rw [← (hbuilt.clearBelow he).contentAt_isSome_iff, hbuilt.contentAt_clearBelow he, if_pos rfl,
    Option.isSome_map, hbuilt.contentAt_isSome_iff]
  exact hfound

/-- At and below the path, items find in the cleared workspace what they found in the empty
one. -/
theorem contentAt_cleared_or_awaited (hq : PackagePath.read text <+: q) :
    (cleared.contentAt q).or (awaited items q) = (empty.contentAt q).or (awaited items q) := by
  rw [(forest_empty.insertAll items).contentAt_clearBelow he, if_pos hq]
  by_cases hbase : q = .read text
  · rw [if_pos hbase, map_emptied_insertAll, Option.or_assoc, Option.or_self]
  · have hroot : q ≠ [] := by
      rintro rfl
      exact hbase (List.prefix_nil.mp hq).symm
    rw [if_neg hbase, contentAt_empty, if_neg hroot]

/-- Inserting the items below the path again gives back what the clearing took. -/
theorem alike_repopulated :
    Alike (cleared.insertAll (itemsBelow (.read text) items)) (empty.insertAll items) := by
  have hbuilt : (empty.insertAll items).Forest [] := forest_empty.insertAll items
  have hcleared : cleared.Forest [] := hbuilt.clearBelow he
  obtain ⟨s, hs⟩ := exists_find_cleared he
  constructor
  · intro q
    by_cases hq : PackagePath.read text <+: q
    · rw [hcleared.contentAt_insertAll, awaited_itemsBelow items hq, fill_itemsBelow items hq,
        contentAt_cleared_or_awaited he hq, ← forest_empty.contentAt_insertAll]
    · rw [hcleared.contentAt_insert_itemsBelow hs hq, hbuilt.contentAt_clearBelow he,
        if_neg hq, if_neg fun hbase : q = _ => hq (hbase ▸ List.prefix_rfl)]
  · intro q
    by_cases hq : PackagePath.read text <+: q
    · rw [hcleared.namesAt_insertAll, next?_itemsBelow items hq, hbuilt.namesAt_clearBelow he,
        if_pos hq, forest_empty.namesAt_insertAll, namesAt_empty]
    · rw [hcleared.namesAt_insert_itemsBelow hs hq, hbuilt.namesAt_clearBelow he, if_neg hq]

end cleared

/-- Whatever is cleared, the items at and below it restore the listing and the count. -/
theorem clearBelow_insertAll_restores
    (hfound : ∃ s, (empty.insertAll items).find (.read text) = some s) :
    ∃ cleared, (empty.insertAll items).clearBelow text = .ok cleared ∧
      (cleared.insertAll (itemsBelow (.read text) items)).paths =
        (empty.insertAll items).paths ∧
      (cleared.insertAll (itemsBelow (.read text) items)).packages =
        (empty.insertAll items).packages ∧
      (cleared.insertAll (itemsBelow (.read text) items)).packageCount =
        (empty.insertAll items).packageCount := by
  have hbuilt : (empty.insertAll items).Forest [] := forest_empty.insertAll items
  obtain ⟨cleared, he⟩ := hbuilt.clearBelow_isOk_iff.mpr hfound
  have halike := alike_repopulated he
  have hrestored := (hbuilt.clearBelow he).insertAll (itemsBelow (.read text) items)
  exact ⟨cleared, he, halike.paths_eq hrestored hbuilt, halike.packages_eq hrestored hbuilt,
    halike.packageCount_eq hrestored hbuilt⟩

/-- Two branches of one package with an unrelated one between their items. -/
def branches : List Item :=
  [.target ⟨["a", "b"], "x", "cc_library"⟩, .target ⟨["d"], "y", "cc_library"⟩,
    .file (.inPackage ["a", "c"] "f.cc"), .target ⟨["a"], "z", "cc_binary"⟩,
    .target ⟨["a", "b"], "w", "cc_test"⟩]

theorem clearBelow_insertAll_restores_branches :
    (∃ s, (empty.insertAll branches).find (.read "//a/") = some s) ∧
      ∃ cleared, (empty.insertAll branches).clearBelow "//a/" = .ok cleared ∧
        (cleared.insertAll (branches.eraseIdx 1)).packageCount = 5 ∧
        (cleared.insertAll (branches.eraseIdx 1)).packages =
          [("//", { name := "/" }),
            ("//a", { name := "a", targets := [⟨["a"], "z", "cc_binary"⟩] }),
            ("//a/b", { name := "b", targets :=
              [⟨["a", "b"], "x", "cc_library"⟩, ⟨["a", "b"], "w", "cc_test"⟩] }),
            ("//a/c", { name := "c", files := [.inPackage ["a", "c"] "f.cc"] }),
            ("//d", { name := "d", targets := [⟨["d"], "y", "cc_library"⟩] })] := by
  have hfound : ∃ s, (empty.insertAll branches).find (.read "//a/") = some s := ⟨1, by decide⟩
  have hbelow : itemsBelow (.read "//a/") branches = branches.eraseIdx 1 := by decide
  obtain ⟨cleared, he, -, hpackages, hcount⟩ := clearBelow_insertAll_restores hfound
  rw [hbelow] at hpackages hcount
  refine ⟨hfound, cleared, he, ?_, ?_⟩
  · rw [hcount]
    decide
  · rw [hpackages]
    decide

end BuildAtlas.Workspace
