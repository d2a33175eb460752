import BuildAtlas.Proofs.Workspace.Growth
import BuildAtlas.Workspace.Lookup

/-! # Contents of a workspace by path

Two views say all that a workspace holds without mentioning slots: the package at a path, and
the names of the packages right below a path. Attaching and walking down are described by what
they do to these views.
-/
namespace BuildAtlas

/-- The segment with which a path goes on below another one. -/
def PackagePath.next? : PackagePath → PackagePath → Option String
  | [], name :: _ => some name
  | a :: above, b :: path => if a = b then next? above path else none
  | _, [] => none

theorem PackagePath.next?_eq_some_iff {above path : PackagePath} {name : String} :
    next? above path = some name ↔ above ++ [name] <+: path := by
  induction above generalizing path with
  | nil =>
    cases path with
    | nil => simp [next?]
    | cons b path => simp [next?, eq_comm]
  | cons a above ih =>
    cases path with
    | nil => simp [next?]
    | cons b path =>
      by_cases hab : a = b
      · simp [next?, hab, ih]
      · simp [next?, hab]

/-- Adding to a list what it has already does nothing. -/
theorem Package.addOnce_of_mem {α : Type} [DecidableEq α] {items : List α} {a : α}
    (h : a ∈ items) : addOnce items a = items := if_pos h

theorem Package.addOnce_of_not_mem {α : Type} [DecidableEq α] {items : List α} {a : α}
    (h : a ∉ items) : addOnce items a = items ++ [a] := if_neg h

namespace Workspace
variable {w w' : Workspace} {s t parent : Slot} {path above : PackagePath} {name : String}
  {p : Package}

def contentAt (w : Workspace) (path : PackagePath) : Option Package :=
  (w.nodeAt path).map (·.package)

/-- Names of the packages right below a path, none where there is no package. -/
def namesAt (w : Workspace) (path : PackagePath) : List String :=
  ((w.nodeAt path).map fun n => n.children.map (·.1)).getD []

theorem nodeAt_of_find {n : Node} (hs : w.find path = some s) (hn : w.node? s = some n) :
    w.nodeAt path = some n := by rw [nodeAt, hs, Option.bind_some, hn]

theorem nodeAt_of_find_none (hs : w.find path = none) : w.nodeAt path = none := by
  rw [nodeAt, hs, Option.bind_none]

theorem contentAt_of_find {n : Node} (hs : w.find path = some s) (hn : w.node? s = some n) :
    w.contentAt path = some n.package := by simp [contentAt, nodeAt_of_find hs hn]

theorem contentAt_of_find_none (hs : w.find path = none) : w.contentAt path = none := by
  simp [contentAt, nodeAt_of_find_none hs]

theorem namesAt_of_find {n : Node} (hs : w.find path = some s) (hn : w.node? s = some n) :
    w.namesAt path = n.children.map (·.1) := by simp [namesAt, nodeAt_of_find hs hn]

theorem namesAt_of_find_none (hs : w.find path = none) : w.namesAt path = [] := by
  simp [namesAt, nodeAt_of_find_none hs]

namespace Forest

theorem contentAt_isSome_iff (h : w.Forest []) :
    (w.contentAt path).isSome ↔ ∃ s, w.find path = some s := by
  cases hs : w.find path with
  | none => simp [contentAt_of_find_none hs]
  | some s =>
    obtain ⟨n, hn⟩ := h.find_live hs
    simp [contentAt_of_find hs hn]

theorem mem_namesAt_iff (h : w.Forest []) :
    name ∈ w.namesAt path ↔ ∃ s, w.find (path ++ [name]) = some s := by
  cases hs : w.find path with
  | none => simp [namesAt_of_find_none hs, find_concat, hs]
  | some s =>
    obtain ⟨n, hn⟩ := h.find_live hs
    rw [namesAt_of_find hs hn]
    constructor
    · intro hmem
      obtain ⟨⟨_, c⟩, he, rfl⟩ := List.mem_map.mp hmem
      exact ⟨c, h.find_concat_iff.mpr ⟨s, hs, n, hn, he⟩⟩
    · rintro ⟨c, hc⟩
      obtain ⟨a, ha, k, hk, he⟩ := h.find_concat_iff.mp hc
      obtain rfl := Option.some.inj (hs.symm.trans ha)
      obtain rfl := Option.some.inj (hn.symm.trans hk)
      exact List.mem_map_of_mem (f := (·.1)) he

/-- The packages below are called as their node calls them, whichever slots they live in. -/
theorem subpackagesAt_of_nodeAt (h : w.Forest []) {text : String} {n : Node}
    (hn : w.nodeAt (.read text) = some n) :
    w.subpackagesAt text = .ok ((n.children.map (·.1)).map (childPrefix text ++ ·)) := by
  obtain ⟨s, hs, hns⟩ := Option.bind_eq_some_iff.mp hn
  have hbelow : ∀ child ∈ n.children, (w.node? child.2).map (fun below =>
      childPrefix text ++ below.package.name) = some (childPrefix text ++ child.1) := by
    intro child hchild
    obtain ⟨m, hm, hname, _⟩ := h.child ⟨n, hns, hchild⟩
    rw [hm, Option.map_some, hname]
  rw [subpackagesAt, hn, List.map_map]
  refine congrArg Except.ok ?_
  rw [List.filterMap_congr hbelow]
  exact congrFun List.filterMap_eq_map' n.children

end Forest

/-- Whatever stands on the way to a package is a package. -/
theorem find_of_above (hs : w.find path = some s) (hp : above <+: path) :
    ∃ a, w.find above = some a := by
  obtain ⟨rest, rfl⟩ := hp
  rw [find_append] at hs
  obtain ⟨a, ha, _⟩ := Option.bind_eq_some_iff.mp hs
  exact ⟨a, ha⟩

/-! ## Attaching one package -/

section attached
variable {grown : Workspace}

theorem Attached.find_eq (hat : Attached w parent p s grown) (h : w.Forest [])
    (hp : w.find path = some parent) (q : PackagePath) :
    grown.find q = if q = path ++ [p.name] then some s else w.find q := by
  have hg := h.attached hat
  have hnew : grown.find (path ++ [p.name]) = some s := by
    have hup : grown.find path = some parent := hat.findFrom_eq_some hp
    rw [find_concat, hup, Option.bind_some, hat.child?_eq, if_pos ⟨rfl, rfl⟩]
  split
  · subst q
    exact hnew
  · rename_i hq
    cases hw : w.find q with
    | some t => exact hat.findFrom_eq_some hw
    | none =>
      cases hgq : grown.find q with
      | none => rfl
      | some t =>
        -- a slot found under a new path is new, and the new slot is found under one path only
        obtain ⟨m, hm⟩ := hg.find_live hgq
        rcases hat.live_cases hm with ⟨rfl, _⟩ | ⟨n, hn, _⟩
        · exact absurd (hg.find_inj hgq hnew) hq
        · obtain ⟨q', hq'⟩ := h.find_of_live hn
          obtain rfl := hg.find_inj hgq (hat.findFrom_eq_some hq')
          simp [hw] at hq'

theorem Attached.contentAt_eq (hat : Attached w parent p s grown) (h : w.Forest [])
    (hp : w.find path = some parent) (q : PackagePath) :
    grown.contentAt q = if q = path ++ [p.name] then some p else w.contentAt q := by
  have hfind := hat.find_eq h hp q
  split
  · rename_i hq
    rw [if_pos hq] at hfind
    rw [contentAt_of_find hfind hat.node]
  · rename_i hq
    rw [if_neg hq] at hfind
    cases hw : w.find q with
    | none => rw [contentAt_of_find_none hw, contentAt_of_find_none (hfind.trans hw)]
    | some t =>
      obtain ⟨n, hn⟩ := h.find_live hw
      rw [contentAt_of_find hw hn, contentAt_of_find (hfind.trans hw) (hat.node?_of_live hn)]

theorem Attached.namesAt_eq (hat : Attached w parent p s grown) (h : w.Forest [])
    (hp : w.find path = some parent) (q : PackagePath) :
    grown.namesAt q = if q = path then w.namesAt q ++ [p.name] else w.namesAt q := by
  have hfind := hat.find_eq h hp q
  by_cases hnew : q = path ++ [p.name]
  · rw [if_pos hnew] at hfind
    have hq : q ≠ path := by
      rintro rfl
      simp at hnew
    have hw : w.find q = none := by
      obtain ⟨n, hn, hl⟩ := hat.parent_live
      simp [hnew, find_concat, hp, child?, hn, hl]
    simp [namesAt_of_find hfind hat.node, hq, namesAt_of_find_none hw]
  · rw [if_neg hnew] at hfind
    cases hw : w.find q with
    | none =>
      have hq : q ≠ path := by
        rintro rfl
        simp [hw] at hp
      rw [if_neg hq, namesAt_of_find_none hw, namesAt_of_find_none (hfind.trans hw)]
    | some t =>
      obtain ⟨n, hn⟩ := h.find_live hw
      rw [namesAt_of_find hw hn, namesAt_of_find (hfind.trans hw) (hat.node?_of_live hn)]
      by_cases hq : q = path
      · subst hq
        obtain rfl := Option.some.inj (hw.symm.trans hp)
        simp
      · have ht : t ≠ parent := by
          rintro rfl
          exact hq (h.find_inj hw hp)
        simp [hq, ht]

end attached

/-! ## Walking down a path -/

/-- The package that walking down a path puts where there is none. -/
def fresh (path : PackagePath) : Package := { name := path.getLastD "" }

/-- The walk puts a fresh package wherever one is missing on the way. -/
theorem Ensured.contentAt_eq {done rest : PackagePath} (hrun : Ensured w s rest t w')
    (h : w.Forest []) (hs : w.find done = some s) (q : PackagePath) :
    w'.contentAt q =
      (w.contentAt q).or (if q <+: done ++ rest then some (fresh q) else none) := by
  induction hrun generalizing done with
  | done =>
    rw [List.append_nil]
    split
    · rename_i hq
      have hsome := h.contentAt_isSome_iff.mpr (find_of_above hs hq)
      rw [Option.or_of_isSome hsome]
    · rw [Option.or_none]
  | @step w s name c rest t w' hc _ ih =>
    rw [List.append_cons]
    exact ih h (by simp [find_concat, hs, hc])
  | @attach w s name c grown rest t w' hc hat _ ih =>
    have hnew : grown.find (done ++ [name]) = some c := by simp [hat.find_eq h hs]
    have hnone : w.find (done ++ [name]) = none := by simp [find_concat, hs, hc]
    rw [List.append_cons, ih (h.attached hat) hnew, hat.contentAt_eq h hs]
    by_cases hq : q = done ++ [name]
    · subst hq
      simp [contentAt_of_find_none hnone, fresh]
    · simp [hq]

/-- The walk adds to every package on the way the name with which the path goes on, unless the
package has such a child. -/
theorem Ensured.namesAt_eq {done rest : PackagePath} (hrun : Ensured w s rest t w')
    (h : w.Forest []) (hs : w.find done = some s) (q : PackagePath) :
    w'.namesAt q =
      (PackagePath.next? q (done ++ rest)).elim (w.namesAt q) (Package.addOnce (w.namesAt q)) := by
  induction hrun generalizing done with
  | done =>
    rw [List.append_nil]
    cases hq : PackagePath.next? q done with
    | none => rfl
    | some name =>
      have hmem := h.mem_namesAt_iff.mpr
        (find_of_above hs (PackagePath.next?_eq_some_iff.mp hq))
      exact (Package.addOnce_of_mem hmem).symm
  | @step w s name c rest t w' hc _ ih =>
    rw [List.append_cons]
    exact ih h (by simp [find_concat, hs, hc])
  | @attach w s name c grown rest t w' hc hat _ ih =>
    have hnew : grown.find (done ++ [name]) = some c := by simp [hat.find_eq h hs]
    rw [List.append_cons, ih (h.attached hat) hnew, hat.namesAt_eq h hs]
    by_cases hq : q = done
    · subst hq
      have hnext : PackagePath.next? q (q ++ [name] ++ rest) = some name :=
        PackagePath.next?_eq_some_iff.mpr (List.prefix_append _ _)
      have hnone : name ∉ w.namesAt q := by
        intro hmem
        obtain ⟨a, ha⟩ := h.mem_namesAt_iff.mp hmem
        simp [find_concat, hs, hc] at ha
      simp only [if_true, hnext, Option.elim_some]
      rw [Package.addOnce_of_mem (by simp), Package.addOnce_of_not_mem hnone]
    · rw [if_neg hq]

/-! ## Changing a package -/

theorem contentAt_modifyPackage {f : Package → Package} (h : w.Forest [])
    (hs : w.find path = some s) (q : PackagePath) :
    (w.modifyPackage s f).contentAt q =
      if q = path then (w.contentAt q).map f else w.contentAt q := by
  have hfind : (w.modifyPackage s f).find q = w.find q := findFrom_modifyPackage
  cases hq : w.find q with
  | none => simp [contentAt_of_find_none hq, contentAt_of_find_none (hfind.trans hq)]
  | some t =>
    obtain ⟨n, hn⟩ := h.find_live hq
    rw [contentAt_of_find (hfind.trans hq) (node?_modifyPackage_of_live hn),
      contentAt_of_find hq hn]
    by_cases hp : q = path
    · subst hp
      obtain rfl := Option.some.inj (hs.symm.trans hq)
      simp
    · have ht : t ≠ s := by
        rintro rfl
        exact hp (h.find_inj hq hs)
      simp [hp, ht]

theorem namesAt_modifyPackage {f : Package → Package} (q : PackagePath) :
    (w.modifyPackage s f).namesAt q = w.namesAt q := by
  have hfind : (w.modifyPackage s f).find q = w.find q := findFrom_modifyPackage
  simp only [namesAt, nodeAt, hfind]
  cases hq : w.find q with
  | none => rfl
  | some t => cases hn : w.node? t <;> simp [node?_modifyPackage, hn]

end Workspace

end BuildAtlas
