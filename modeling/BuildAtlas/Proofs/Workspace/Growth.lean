import BuildAtlas.Proofs.Workspace.Paths

/-! # Walks that attach what is missing

`Ensured` is the walk of `ensureFrom`, one constructor a segment: the child is there, or it is
attached. In a forest the walk always goes through, and it keeps the forest.
-/
namespace BuildAtlas

theorem Package.name_addTarget (t : Target) (p : Package) : (p.addTarget t).2.name = p.name := rfl

theorem Package.name_addFile (f : SourceFile) (p : Package) : (p.addFile f).2.name = p.name := rfl

namespace Workspace

inductive Ensured : Workspace → Slot → PackagePath → Slot → Workspace → Prop
  | done {w s} : Ensured w s [] s w
  | step {w s name c rest t w'} : w.child? s name = some c → Ensured w c rest t w' →
      Ensured w s (name :: rest) t w'
  | attach {w s name c grown rest t w'} : w.child? s name = none →
      Attached w s { name } c grown → Ensured grown c rest t w' →
      Ensured w s (name :: rest) t w'

variable {w w' : Workspace} {loose : List Slot} {s t a b : Slot} {path : PackagePath} {n : Node}

theorem lookup_of_child?_none {name : String} (hn : w.node? s = some n)
    (h : w.child? s name = none) : n.children.lookup name = none := by
  simpa [child?, hn] using h

theorem insertTarget_eq (w : Workspace) (t : Target) :
    w.insertTarget t = ((w.ensurePath t.package).1,
      (w.ensurePath t.package).2.modifyPackage (w.ensurePath t.package).1
        fun p => (p.addTarget t).2) := rfl

theorem insertFile_eq (w : Workspace) (f : SourceFile) :
    w.insertFile f = ((w.ensurePath f.owner).1,
      (w.ensurePath f.owner).2.modifyPackage (w.ensurePath f.owner).1
        fun p => (p.addFile f).2) := rfl

namespace Forest

theorem holds_live (h : w.Forest loose) {name : String} (hab : w.Holds a name b) :
    ∃ m, w.node? b = some m := by
  obtain ⟨m, hm, _⟩ := h.child hab
  exact ⟨m, hm⟩

/-- The walk down from a live slot never meets a fault. -/
theorem exists_ensured (h : w.Forest loose) (hs : ∃ n, w.node? s = some n)
    (path : PackagePath) :
    ∃ t w', w.ensureFrom s path = .ok (t, w') ∧ Ensured w s path t w' := by
  induction path generalizing w s with
  | nil => exact ⟨s, w, rfl, .done⟩
  | cons name rest ih =>
    cases hc : w.child? s name with
    | some c =>
      obtain ⟨t, w', he, hrun⟩ := ih h (h.holds_live (holds_of_child? hc))
      exact ⟨t, w', by simpa [ensureFrom, hc] using he, .step hc hrun⟩
    | none =>
      obtain ⟨n, hn⟩ := hs
      obtain ⟨c, grown, hadd, hat⟩ := h.freeList.exists_attached (p := { name }) hn
        (lookup_of_child?_none hn hc)
      obtain ⟨t, w', he, hrun⟩ := ih (h.attached hat) ⟨_, hat.node⟩
      exact ⟨t, w', by simpa [ensureFrom, hc, hadd] using he, .attach hc hat hrun⟩

theorem ensured (h : w.Forest loose) (hrun : Ensured w s path t w') : w'.Forest loose := by
  induction hrun with
  | done => exact h
  | step _ _ ih => exact ih h
  | attach _ hat _ ih => exact ih (h.attached hat)

theorem ensurePath (h : w.Forest loose) (path : PackagePath) :
    Ensured w rootSlot path (w.ensurePath path).1 (w.ensurePath path).2 := by
  obtain ⟨t, w', he, hrun⟩ := h.exists_ensured h.root_live path
  simpa [Workspace.ensurePath, he] using hrun

theorem insertTarget (h : w.Forest loose) (t : Target) : (w.insertTarget t).2.Forest loose := by
  rw [insertTarget_eq]
  exact (h.ensured (h.ensurePath t.package)).modifyPackage (Package.name_addTarget t)

theorem insertFile (h : w.Forest loose) (f : SourceFile) : (w.insertFile f).2.Forest loose := by
  rw [insertFile_eq]
  exact (h.ensured (h.ensurePath f.owner)).modifyPackage (Package.name_addFile f)

end Forest

/-! ## What the walk leaves as it was -/

theorem Ensured.findFrom_eq_some (hrun : Ensured w s path t w') {rest : PackagePath}
    (hf : w.findFrom a rest = some b) : w'.findFrom a rest = some b := by
  induction hrun with
  | done => exact hf
  | step _ _ ih => exact ih hf
  | attach _ hat _ ih => exact ih (hat.findFrom_eq_some hf)

/-- The walk ends where the path leads afterwards. -/
theorem Ensured.findFrom (hrun : Ensured w s path t w') : w'.findFrom s path = some t := by
  induction hrun with
  | done => rfl
  | @step w s name c rest t w' hc hrun ih =>
    have hcw : w.findFrom s [name] = some c := by simp [findFrom_cons, hc]
    rw [← List.singleton_append, findFrom_append, hrun.findFrom_eq_some hcw]
    exact ih
  | @attach w s name c grown rest t w' _ hat hrun ih =>
    have hcw : grown.findFrom s [name] = some c := by simp [findFrom_cons, hat.child?_eq]
    rw [← List.singleton_append, findFrom_append, hrun.findFrom_eq_some hcw]
    exact ih

end Workspace

end BuildAtlas
