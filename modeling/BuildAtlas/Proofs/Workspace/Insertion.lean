import BuildAtlas.Proofs.Workspace.Histories
import BuildAtlas.Proofs.Workspace.Membership

/-! # Insertion changes one package

Inserting an item walks down to its home, attaching the packages that are missing, and puts the
item behind the others there unless it is listed already. A slot that was live keeps its node
but for children attached at the end, its path, and, unless it is that home, its package. A
second insertion finds all in place and changes nothing.
-/
namespace BuildAtlas

namespace Item
variable {i : Item} {p : Package}

/-- The package with the item behind the others of its kind. -/
def appendTo : Item → Package → Package
  | target t, p => { p with targets := p.targets ++ [t] }
  | file f, p => { p with files := p.files ++ [f] }

theorem add_of_in (h : i.In p) : i.add p = (false, p) := by
  cases i with
  | target t =>
    have ht : t ∈ p.targets := h
    simp [add, Package.addTarget, Package.addOnce_of_mem ht, ht]
  | file f =>
    have hf : f ∈ p.files := h
    simp [add, Package.addFile, Package.addOnce_of_mem hf, hf]

theorem add_of_not_in (h : ¬ i.In p) : i.add p = (true, i.appendTo p) := by
  cases i with
  | target t =>
    have ht : t ∉ p.targets := h
    simp [add, appendTo, Package.addTarget, Package.addOnce_of_not_mem ht, ht]
  | file f =>
    have hf : f ∉ p.files := h
    simp [add, appendTo, Package.addFile, Package.addOnce_of_not_mem hf, hf]

theorem addTo_of_in (h : i.In p) : i.addTo p = p := congrArg Prod.snd (add_of_in h)

theorem addTo_of_not_in (h : ¬ i.In p) : i.addTo p = i.appendTo p :=
  congrArg Prod.snd (add_of_not_in h)

theorem addTo_addTo : i.addTo (i.addTo p) = i.addTo p :=
  addTo_of_in (in_addTo.mpr (Or.inr rfl))

end Item

namespace Workspace
variable {w w' : Workspace} {s t : Slot} {n : Node} {path : PackagePath} {i : Item}

/-! ## Walking where all is in place -/

theorem ensureFrom_of_findFrom (h : w.findFrom s path = some t) :
    w.ensureFrom s path = .ok (t, w) := by
  induction path generalizing s with
  | nil =>
    obtain rfl := Option.some.inj h
    rfl
  | cons name rest ih =>
    obtain ⟨c, hc, hrest⟩ := Option.bind_eq_some_iff.mp h
    rw [ensureFrom, hc]
    exact ih hrest

theorem ensurePath_of_find (h : w.find path = some s) : w.ensurePath path = (s, w) := by
  rw [ensurePath, ensureFrom_of_findFrom h]

theorem modifyPackage_of_eq {f : Package → Package} (hn : w.node? s = some n)
    (hf : f n.package = n.package) : w.modifyPackage s f = w := by
  have hslot := node?_eq_some_iff.mp hn
  simp only [modifyPackage, modify, hn, hf]
  refine congrArg (Workspace.mk · w.free) (Array.ext_getElem? fun j => ?_)
  by_cases hj : s = j
  · subst hj
    rw [Array.getElem?_setIfInBounds_self_of_lt (lt_size_of_node? hn), hslot]
  · rw [Array.getElem?_setIfInBounds_ne hj]

theorem Ensured.node?_of_live {a : Slot} (hrun : Ensured w s path t w')
    (hn : w.node? a = some n) :
    ∃ attached, w'.node? a = some { n with children := n.children ++ attached } := by
  induction hrun generalizing n with
  | done => exact ⟨[], by rw [List.append_nil, hn]⟩
  | step _ _ ih => exact ih hn
  | attach _ hat _ ih =>
    obtain ⟨attached, hm⟩ := ih (hat.node?_of_live hn)
    exact ⟨_, by rw [hm, List.append_assoc]⟩

/-! ## Inserting -/

/-- Insert an item and tell the slot of its package. -/
def place (w : Workspace) : Item → Slot × Workspace
  | .target t => w.insertTarget t
  | .file f => w.insertFile f

/-- The package at a path, or the one that walking there would put there. -/
def packageFor (w : Workspace) (path : PackagePath) : Package :=
  (w.contentAt path).getD (fresh path)

theorem place_eq (w : Workspace) (i : Item) :
    w.place i = ((w.ensurePath i.home).1,
      (w.ensurePath i.home).2.modifyPackage (w.ensurePath i.home).1 i.addTo) := by
  cases i <;> rfl

theorem place_snd (w : Workspace) (i : Item) : (w.place i).2 = w.insert i := by
  cases i <;> rfl

/-- All that inserting an item does. -/
structure Inserted (w : Workspace) (i : Item) (s : Slot) (grown : Workspace) : Prop where
  found : grown.find i.home = some s
  paths : ∀ path, (∃ t, grown.find path = some t) ↔
    (∃ t, w.find path = some t) ∨ path <+: i.home
  listed : i.In (w.packageFor i.home) → grown.contentAt i.home = some (w.packageFor i.home)
  added : ¬ i.In (w.packageFor i.home) →
    grown.contentAt i.home = some (i.appendTo (w.packageFor i.home))
  /-- Packages made on the way have nothing in them. -/
  made : ∀ path, w.find path = none → path <+: i.home → path ≠ i.home →
    grown.contentAt path = some (fresh path)
  kept : ∀ t n, w.node? t = some n → ∃ m, grown.node? t = some m ∧
    grown.path? t = w.path? t ∧ m.parent = n.parent ∧ n.children <+: m.children ∧
    (t ≠ s → m.package = n.package)
  again : grown.place i = (s, grown)

namespace Forest

theorem find_place (h : w.Forest []) (i : Item) : (w.place i).2.find i.home = some (w.place i).1 := by
  rw [place_eq]
  exact findFrom_modifyPackage.trans (h.ensurePath i.home).findFrom

theorem contentAt_place (h : w.Forest []) (i : Item) :
    (w.place i).2.contentAt i.home = some (i.addTo (w.packageFor i.home)) := by
  rw [place_snd, contentAt_insert h, if_pos rfl, if_pos List.prefix_rfl, packageFor]
  cases w.contentAt i.home <;> rfl

theorem exists_find_place_iff (h : w.Forest []) (i : Item) (path : PackagePath) :
    (∃ t, (w.place i).2.find path = some t) ↔ (∃ t, w.find path = some t) ∨ path <+: i.home := by
  rw [place_snd, ← (h.insert i).contentAt_isSome_iff, ← h.contentAt_isSome_iff,
    contentAt_insert h]
  by_cases hp : path <+: i.home
  · by_cases hhome : path = i.home <;> simp [hp, hhome]
  · have hne : path ≠ i.home := by
      rintro rfl
      exact hp List.prefix_rfl
    simp [hp, hne]

theorem find_place_of_find (h : w.Forest []) (i : Item) (hs : w.find path = some s) :
    (w.place i).2.find path = some s := by
  rw [place_eq]
  exact findFrom_modifyPackage.trans ((h.ensurePath i.home).findFrom_eq_some hs)

theorem place_place (h : w.Forest []) (i : Item) : (w.place i).2.place i = w.place i := by
  have hgrown : (w.place i).2.Forest [] := place_snd w i ▸ h.insert i
  obtain ⟨n, hn⟩ := hgrown.find_live (h.find_place i)
  -- the package has the item since the first time
  have hhas : i.addTo n.package = n.package := by
    have hcontent := contentAt_of_find (h.find_place i) hn
    rw [h.contentAt_place i] at hcontent
    rw [← Option.some.inj hcontent, Item.addTo_addTo]
  rw [place_eq, ensurePath_of_find (h.find_place i), modifyPackage_of_eq hn hhas]

theorem inserted (h : w.Forest []) (i : Item) : w.Inserted i (w.place i).1 (w.place i).2 where
  found := h.find_place i
  paths := h.exists_find_place_iff i
  listed hin := by rw [h.contentAt_place, Item.addTo_of_in hin]
  added hin := by rw [h.contentAt_place, Item.addTo_of_not_in hin]
  made path hnone hp hne := by
    rw [place_snd, contentAt_insert h, if_neg hne, contentAt_of_find_none hnone, if_pos hp,
      Option.none_or]
  kept t n hn := by
    obtain ⟨path, hf⟩ := h.find_of_live hn
    have hgrown : (w.place i).2.Forest [] := place_snd w i ▸ h.insert i
    have hpath : (w.place i).2.path? t = w.path? t := by
      rw [hgrown.path?_eq_some_iff.mpr (h.find_place_of_find i hf),
        h.path?_eq_some_iff.mpr hf]
    obtain ⟨attached, hm⟩ := (h.ensurePath i.home).node?_of_live hn
    rw [place_eq] at hpath ⊢
    refine ⟨_, node?_modifyPackage_of_live hm, hpath, rfl, List.prefix_append _ _, fun ht => ?_⟩
    exact if_neg ht
  again := h.place_place i

end Forest

/-- After every history inserting an item, of whatever segments, is local and done once. -/
theorem run_inserted (root : Package) (changes : List Change) (i : Item) :
    ((withRoot root).run changes).Inserted i (((withRoot root).run changes).place i).1
      (((withRoot root).run changes).place i).2 := (forest_run root changes).inserted i

end Workspace

end BuildAtlas
