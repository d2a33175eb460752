import BuildAtlas.Proofs.Workspace.Contents

/-! # Workspaces built from items

An item is a target or a source file, and its home is the package it belongs to. Inserting
items one after another changes what is seen by path in a way that can be read off the list of
items: a package takes the items at home in it, and a name is added where it is first mentioned.
Into an empty workspace this gathers the items by home.
-/
namespace BuildAtlas

inductive Item where
  | target (t : Target)
  | file (f : SourceFile)
  deriving DecidableEq

namespace Item

def home : Item → PackagePath
  | target t => t.package
  | file f => f.owner

def target? : Item → Option Target
  | target t => some t
  | file _ => none

def file? : Item → Option SourceFile
  | target _ => none
  | file f => some f

/-- Add an item, and tell whether the package did not have it yet. -/
def add : Item → Package → Bool × Package
  | target t, p => p.addTarget t
  | file f, p => p.addFile f

def addTo (i : Item) (p : Package) : Package := (i.add p).2

end Item

/-- A list without repetitions takes one more item as the list of first occurrences does. -/
theorem Package.eraseDups_concat {α : Type} [DecidableEq α] (items : List α) (a : α) :
    (items ++ [a]).eraseDups = addOnce items.eraseDups a := by
  rw [List.eraseDups_append]
  by_cases h : a ∈ items
  · rw [addOnce_of_mem (List.mem_eraseDups.mpr h)]
    simp [List.removeAll, h]
  · rw [addOnce_of_not_mem (fun hm => h (List.mem_eraseDups.mp hm))]
    simp [List.removeAll, h, List.eraseDups_cons]

namespace Workspace
variable {w : Workspace} {items : List Item} {q : PackagePath}

def insert (w : Workspace) : Item → Workspace
  | .target t => (w.insertTarget t).2
  | .file f => (w.insertFile f).2

def insertAll (w : Workspace) (items : List Item) : Workspace := items.foldl insert w

theorem insertAll_concat (w : Workspace) (items : List Item) (i : Item) :
    w.insertAll (items ++ [i]) = (w.insertAll items).insert i := by
  simp [insertAll]

theorem insert_eq (w : Workspace) (i : Item) :
    w.insert i = (w.ensurePath i.home).2.modifyPackage (w.ensurePath i.home).1 i.addTo := by
  cases i <;> rfl

theorem Forest.insert (h : w.Forest []) (i : Item) : (w.insert i).Forest [] := by
  cases i with
  | target t => exact h.insertTarget t
  | file f => exact h.insertFile f

theorem Forest.insertAll (h : w.Forest []) (items : List Item) :
    (w.insertAll items).Forest [] := by
  induction items generalizing w with
  | nil => exact h
  | cons i rest ih => exact ih (h.insert i)

theorem contentAt_insert (h : w.Forest []) (i : Item) (q : PackagePath) :
    (w.insert i).contentAt q =
      if q = i.home then
        ((w.contentAt q).or (if q <+: i.home then some (fresh q) else none)).map i.addTo
      else (w.contentAt q).or (if q <+: i.home then some (fresh q) else none) := by
  have hrun := h.ensurePath i.home
  rw [insert_eq, contentAt_modifyPackage (h.ensured hrun) hrun.findFrom,
    hrun.contentAt_eq h find_nil, List.nil_append]

theorem namesAt_insert (h : w.Forest []) (i : Item) (q : PackagePath) :
    (w.insert i).namesAt q =
      (PackagePath.next? q i.home).elim (w.namesAt q) (Package.addOnce (w.namesAt q)) := by
  rw [insert_eq, namesAt_modifyPackage, (h.ensurePath i.home).namesAt_eq h find_nil,
    List.nil_append]

/-! ## Inserting into any workspace -/

/-- The package that a walk to an item at or below a path would put there. -/
def awaited (items : List Item) (q : PackagePath) : Option Package :=
  if ∃ i ∈ items, q <+: i.home then some (fresh q) else none

def fill (items : List Item) (q : PackagePath) (p : Package) : Package :=
  (items.filter (·.home = q)).foldl (fun p i => i.addTo p) p

theorem fill_concat (items : List Item) (i : Item) (p : Package) :
    fill (items ++ [i]) q p =
      if q = i.home then i.addTo (fill items q p) else fill items q p := by
  by_cases hq : q = i.home
  · simp [fill, hq]
  · simp [fill, hq, Ne.symm hq]

theorem awaited_concat (items : List Item) (i : Item) (q : PackagePath) :
    awaited (items ++ [i]) q =
      (awaited items q).or (if q <+: i.home then some (fresh q) else none) := by
  by_cases hm : ∃ j ∈ items, q <+: j.home
  · obtain ⟨j, hj, hp⟩ := hm
    rw [awaited, awaited, if_pos ⟨j, List.mem_append_left _ hj, hp⟩, if_pos ⟨j, hj, hp⟩,
      Option.some_or]
  · by_cases hp : q <+: i.home
    · rw [awaited, awaited, if_pos ⟨i, by simp, hp⟩, if_neg hm, if_pos hp, Option.none_or]
    · have hm' : ¬∃ j ∈ items ++ [i], q <+: j.home := by
        rintro ⟨j, hj, hjp⟩
        rcases List.mem_append.mp hj with hj | hj
        · exact hm ⟨j, hj, hjp⟩
        · exact hp (List.mem_singleton.mp hj ▸ hjp)
      rw [awaited, awaited, if_neg hm', if_neg hm, if_neg hp, Option.none_or]

/-- A package that no item awaits takes none. -/
theorem fill_of_not_awaited {p : Package} (h : awaited items q = none) : fill items q p = p := by
  have hnone : items.filter (·.home = q) = [] := by
    refine List.filter_eq_nil_iff.mpr fun j hj he => ?_
    have hm : ∃ i ∈ items, q <+: i.home := ⟨j, hj, of_decide_eq_true he ▸ List.prefix_rfl⟩
    rw [awaited, if_pos hm] at h
    cases h
  rw [fill, hnone, List.foldl_nil]

theorem Forest.contentAt_insertAll (h : w.Forest []) (items : List Item) (q : PackagePath) :
    (w.insertAll items).contentAt q =
      ((w.contentAt q).or (awaited items q)).map (fill items q) := by
  induction items using List.reverseRecOn with
  | nil => cases hc : w.contentAt q <;> simp [Workspace.insertAll, awaited, fill, hc]
  | append_singleton items i ih =>
    have hbefore : (((w.contentAt q).or (awaited items q)).map (fill items q)).or
          (if q <+: i.home then some (fresh q) else none) =
        ((w.contentAt q).or (awaited (items ++ [i]) q)).map (fill items q) := by
      rw [awaited_concat]
      cases hc : w.contentAt q with
      | some p => rfl
      | none =>
        cases ha : awaited items q with
        | some p => rfl
        | none =>
          -- no item before this one is at home there, so a fresh package has nothing to take
          split
          · simp [fill_of_not_awaited ha]
          · rfl
    rw [insertAll_concat, contentAt_insert (h.insertAll items), ih, hbefore]
    cases (w.contentAt q).or (awaited (items ++ [i]) q) with
    | none => simp
    | some p => by_cases hq : q = i.home <;> simp [fill_concat, hq]

theorem Forest.namesAt_insertAll (h : w.Forest []) (items : List Item) (q : PackagePath) :
    (w.insertAll items).namesAt q =
      ((items.map Item.home).filterMap (PackagePath.next? q)).foldl Package.addOnce
        (w.namesAt q) := by
  induction items using List.reverseRecOn with
  | nil => rfl
  | append_singleton items i ih =>
    rw [insertAll_concat, namesAt_insert (h.insertAll items), ih]
    cases hn : PackagePath.next? q i.home with
    | none => simp [hn]
    | some name => simp [hn]

/-! ## Gathering -/

/-- The package at a path made of the items at home there, each at its first occurrence. -/
def gather (path : PackagePath) (items : List Item) : Package where
  name := path.getLastD "/"
  targets := ((items.filterMap Item.target?).filter (·.package = path)).eraseDups
  files := ((items.filterMap Item.file?).filter (·.owner = path)).eraseDups

theorem gather_concat (path : PackagePath) (items : List Item) (i : Item) :
    gather path (items ++ [i]) =
      if path = i.home then i.addTo (gather path items) else gather path items := by
  cases i with
  | target t =>
    by_cases h : t.package = path
    · simp [gather, Item.home, Item.addTo, Item.add, Item.target?, Item.file?, Package.addTarget, h,
        List.filterMap_cons, Package.eraseDups_concat]
    · simp [gather, Item.home, Item.target?, Item.file?, List.filterMap_cons, h, Ne.symm h]
  | file f =>
    by_cases h : f.owner = path
    · simp [gather, Item.home, Item.addTo, Item.add, Item.target?, Item.file?, Package.addFile, h,
        List.filterMap_cons, Package.eraseDups_concat]
    · simp [gather, Item.home, Item.target?, Item.file?, List.filterMap_cons, h, Ne.symm h]

/-- The root and all that stands on the way to the home of an item. -/
def Mentioned (path : PackagePath) (items : List Item) : Prop :=
  path = [] ∨ ∃ i ∈ items, path <+: i.home

theorem find_withRoot (root : Package) (q : PackagePath) :
    (withRoot root).find q = if q = [] then some rootSlot else none := by
  cases q with
  | nil => rfl
  | cons name rest => simp [find, findFrom_cons, child?]

theorem contentAt_empty (q : PackagePath) :
    empty.contentAt q = if q = [] then some { name := "/" } else none := by
  by_cases h : q = [] <;> simp [empty, contentAt, nodeAt, find_withRoot, h]

theorem namesAt_empty (q : PackagePath) : empty.namesAt q = [] := by
  by_cases h : q = [] <;> simp [empty, namesAt, nodeAt, find_withRoot, h]

theorem forest_empty : empty.Forest [] := forest_withRoot _

theorem fill_eq_gather (items : List Item) (q : PackagePath) :
    fill items q { name := q.getLastD "/" } = gather q items := by
  induction items using List.reverseRecOn with
  | nil => rfl
  | append_singleton items i ih => rw [fill_concat, gather_concat, ih]

theorem fresh_eq (h : q ≠ []) : fresh q = { name := q.getLastD "/" } := by
  simp [fresh, List.getLast?_eq_some_getLast h]

/-- The packages are the root and those on the way to an item, and each has gathered the items
at home in it. -/
theorem contentAt_insertAll (items : List Item) (q : PackagePath) :
    (Mentioned q items → (empty.insertAll items).contentAt q = some (gather q items)) ∧
      (¬ Mentioned q items → (empty.insertAll items).contentAt q = none) := by
  rw [forest_empty.contentAt_insertAll, contentAt_empty]
  by_cases hq : q = []
  · subst hq
    refine ⟨fun _ => ?_, fun hm => absurd (Or.inl rfl) hm⟩
    exact congrArg some (fill_eq_gather items [])
  · rw [if_neg hq, Option.none_or, awaited, Mentioned, or_iff_right hq]
    constructor
    · intro hm
      rw [if_pos hm, Option.map_some, fresh_eq hq, fill_eq_gather]
    · intro hm
      rw [if_neg hm, Option.map_none]

theorem foldl_addOnce_nil (names : List String) :
    names.foldl Package.addOnce [] = names.eraseDups := by
  induction names using List.reverseRecOn with
  | nil => rfl
  | append_singleton names name ih =>
    rw [List.foldl_append, ih, Package.eraseDups_concat, List.foldl_cons, List.foldl_nil]

/-- The children of a package stand in the order in which a path below it was first mentioned. -/
theorem namesAt_insertAll (items : List Item) (q : PackagePath) :
    (empty.insertAll items).namesAt q =
      ((items.map Item.home).filterMap (PackagePath.next? q)).eraseDups := by
  rw [forest_empty.namesAt_insertAll, namesAt_empty, foldl_addOnce_nil]

end Workspace

end BuildAtlas
