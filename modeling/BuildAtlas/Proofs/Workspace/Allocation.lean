import BuildAtlas.Proofs.Workspace.Removal

/-! # Attaching a package takes the slot freed last

A history frees slots in some order, and some of them are used again in between. The free list
is the stack of the slots that are free now: what was freed after one of them stands above it or
is in use again. So attaching a package takes the free slot that was freed last, or a slot never
used when none is free, and it either does this and adds a last child or changes nothing.
-/
namespace BuildAtlas.Workspace
variable {w w' grown : Workspace} {freed : List Slot} {s t parent : Slot} {p : Package}
  {n : Node} {path : PackagePath}

/-- The slots that a change frees, in the order in which it does so. -/
def freedBy (w : Workspace) : Change → List Slot
  | .clearBelow text => ((w.nodeAt (.read text)).map w.slotsBelow).getD []
  | _ => []

/-- The slots that a history frees, in order. A slot that was used again may come again. -/
def freedIn (w : Workspace) : List Change → List Slot
  | [] => []
  | change :: rest => w.freedBy change ++ (w.apply change).freedIn rest

/-- What was freed after a slot of the free list stands above it there or is in use again. -/
def Stacked (w : Workspace) (freed : List Slot) : Prop :=
  ∀ top s rest, w.free = top ++ s :: rest → ∃ earlier later, freed = earlier ++ s :: later ∧
    ∀ t ∈ later, t ∈ top ∨ ∃ n, w.node? t = some n

namespace Stacked

theorem of_withRoot (root : Package) : (withRoot root).Stacked [] := by
  intro top s rest hfree
  simp [withRoot] at hfree

theorem modifyPackage {f : Package → Package} (h : w.Stacked freed) :
    (w.modifyPackage s f).Stacked freed := by
  intro top t rest hfree
  obtain ⟨earlier, later, hsplit, hlater⟩ := h top t rest (free_modify.symm.trans hfree)
  refine ⟨earlier, later, hsplit, fun u hu => (hlater u hu).imp_right ?_⟩
  rintro ⟨n, hn⟩
  exact ⟨_, node?_modifyPackage_of_live hn⟩

/-- Taking the top of the free list puts it into use. -/
theorem attached (h : w.Stacked freed) (hat : Attached w parent p s grown) :
    grown.Stacked freed := by
  intro top t rest hfree
  rcases hat.taken with ⟨htop, _⟩ | ⟨_, hnone, _⟩
  · rw [hfree] at htop
    obtain ⟨earlier, later, hsplit, hlater⟩ := h (s :: top) t rest htop
    refine ⟨earlier, later, hsplit, fun u hu => ?_⟩
    rcases hlater u hu with hu | ⟨n, hn⟩
    · rcases List.mem_cons.mp hu with rfl | hu
      · exact Or.inr ⟨_, hat.node⟩
      · exact Or.inl hu
    · exact Or.inr ⟨_, hat.node?_of_live hn⟩
  · simp [hnone] at hfree

theorem ensured (h : w.Stacked freed) (hrun : Ensured w s path t w') : w'.Stacked freed := by
  induction hrun with
  | done => exact h
  | step _ _ ih => exact ih h
  | attach _ hat _ ih => exact ih (h.attached hat)

/-- Clearing puts what it frees on top, the last one uppermost. -/
theorem cleared {base : PackagePath} (h : w.Stacked freed) (hc : w.Cleared base s n w') :
    w'.Stacked (freed ++ w.slotsBelow n) := by
  intro top t rest hfree
  rw [hc.free] at hfree
  -- what is freed now comes to stand above a slot that was free before
  have hold : ∀ above, w.free = above ++ t :: rest → top = (w.slotsBelow n).reverse ++ above →
      ∃ earlier later, freed ++ w.slotsBelow n = earlier ++ t :: later ∧
        ∀ u ∈ later, u ∈ top ∨ ∃ m, w'.node? u = some m := by
    rintro above hrest rfl
    obtain ⟨earlier, later, rfl, hlater⟩ := h above t rest hrest
    refine ⟨earlier, later ++ w.slotsBelow n, by simp, fun u hu => ?_⟩
    by_cases hbelow : u ∈ w.slotsBelow n
    · exact Or.inl (List.mem_append_left _ (List.mem_reverse.mpr hbelow))
    · rcases hlater u ((List.mem_append.mp hu).resolve_right hbelow) with hu | ⟨m, hm⟩
      · exact Or.inl (List.mem_append_right _ hu)
      · by_cases hs : u = s
        · exact Or.inr ⟨_, hs ▸ hc.node⟩
        · exact Or.inr ⟨m, (hc.kept u hs hbelow).trans hm⟩
  rcases List.append_eq_append_iff.mp hfree with ⟨above, htop, hrest⟩ | ⟨new, htop, hrest⟩
  · exact hold above hrest htop
  · cases new with
    | nil => exact hold [] hrest.symm (by rw [htop, List.append_nil, List.append_nil])
    | cons u new =>
      obtain ⟨rfl, _⟩ := List.cons.inj hrest
      refine ⟨freed ++ new.reverse, top.reverse, ?_, fun v hv => Or.inl (List.mem_reverse.mp hv)⟩
      rw [← List.reverse_reverse (w.slotsBelow n), htop]
      simp

theorem apply (h : w.Stacked freed) (hw : w.Forest []) (change : Change) :
    (w.apply change).Stacked (freed ++ w.freedBy change) := by
  cases change with
  | clearBelow text =>
    cases hs : w.find (.read text) with
    | none =>
      have hnone : w.freedBy (.clearBelow text) = [] := by
        simp [freedBy, nodeAt_of_find_none hs]
      rw [((hw.clears text).refused hs).2, hnone, List.append_nil]
      exact h
    | some s =>
      obtain ⟨n, cleared, hn, _, heq, hc⟩ := (hw.clears text).cleared s hs
      have hbelow : w.freedBy (.clearBelow text) = w.slotsBelow n := by
        simp [freedBy, nodeAt_of_find hs hn]
      rw [heq, hbelow]
      exact h.cleared hc
  | addChild parent p =>
    simp only [freedBy, List.append_nil]
    cases he : w.addChild parent p with
    | error _ => simpa [Workspace.apply, he] using h
    | ok found => simpa [Workspace.apply, he] using h.attached (hw.freeList.attached he)
  | ensurePath path =>
    simp only [freedBy, List.append_nil]
    exact h.ensured (hw.ensurePath path)
  | insertTarget t =>
    simp only [freedBy, List.append_nil]
    exact (h.ensured (hw.ensurePath t.package)).modifyPackage
  | insertFile f =>
    simp only [freedBy, List.append_nil]
    exact (h.ensured (hw.ensurePath f.owner)).modifyPackage
  | addTarget s t =>
    simp only [freedBy, List.append_nil]
    exact h.modifyPackage
  | addFile s f =>
    simp only [freedBy, List.append_nil]
    exact h.modifyPackage

theorem run (h : w.Stacked freed) (hw : w.Forest []) (changes : List Change) :
    (w.run changes).Stacked (freed ++ w.freedIn changes) := by
  induction changes generalizing w freed with
  | nil =>
    rw [freedIn, List.append_nil]
    exact h
  | cons change rest ih =>
    rw [freedIn, ← List.append_assoc]
    exact ih (h.apply hw change) (hw.apply change)

end Stacked

theorem stacked_run (root : Package) (changes : List Change) :
    ((withRoot root).run changes).Stacked ((withRoot root).freedIn changes) := by
  simpa using (Stacked.of_withRoot root).run (forest_withRoot root) changes

/-! ## Attaching a package -/

/-- The slot for the next node, after a history that freed the slots listed: of those that are
free the one freed last, or the first one never used. -/
def NextSlot (w : Workspace) (freed : List Slot) (s : Slot) : Prop :=
  (w.Vacant s ∧ ∃ earlier later, freed = earlier ++ s :: later ∧ ∀ t ∈ later, ¬ w.Vacant t) ∨
    ((∀ t, ¬ w.Vacant t) ∧ s = w.slots.size)

/-- The node in slot `s` is new below `parent`, and it is all that is new. -/
structure NewChild (w : Workspace) (parent : Slot) (above : Node) (p : Package) (s : Slot)
    (grown : Workspace) : Prop where
  fresh : w.node? s = none
  node : grown.node? s = some ⟨p, some parent, []⟩
  parent_node : grown.node? parent =
    some { above with children := above.children ++ [(p.name, s)] }
  others : ∀ t, t ≠ s → t ≠ parent → grown.node? t = w.node? t

/-- Attaching a package below a slot, live or not, is done as a whole or not at all. -/
structure Attaches (w : Workspace) (freed : List Slot) (parent : Slot) (p : Package) : Prop where
  missing : w.addChild parent p = .error (.missingParent p.name) ↔ w.node? parent = none
  duplicate : w.addChild parent p = .error (.duplicateChild p.name) ↔
    ∃ above, w.node? parent = some above ∧ p.name ∈ above.children.map (·.1)
  fails : ∀ fault, w.addChild parent p = .error fault →
    (fault = .missingParent p.name ∨ fault = .duplicateChild p.name) ∧
      w.apply (.addChild parent p) = w
  attaches : ∀ above, w.node? parent = some above → p.name ∉ above.children.map (·.1) →
    ∃ s grown, w.addChild parent p = .ok (s, grown) ∧ w.apply (.addChild parent p) = grown ∧
      w.NextSlot freed s ∧ w.NewChild parent above p s grown

/-- The top of the free list is the free slot that was freed last. -/
theorem Attached.nextSlot (hat : Attached w parent p s grown) (hw : w.FreeList)
    (h : w.Stacked freed) : w.NextSlot freed s := by
  rcases hat.taken with ⟨htop, _⟩ | ⟨hnone, _, hsize, _⟩
  · left
    obtain ⟨earlier, later, hsplit, hlater⟩ := h [] s grown.free htop
    refine ⟨(hw.mem_iff s).mp (by simp [htop]), earlier, later, hsplit, fun t ht hv => ?_⟩
    obtain ⟨n, hn⟩ := (hlater t ht).resolve_left List.not_mem_nil
    simp [hv.node?] at hn
  · refine Or.inr ⟨fun t hv => ?_, hsize⟩
    have hmem := (hw.mem_iff t).mpr hv
    simp [hnone] at hmem

theorem addChild_of_dead (hn : w.node? parent = none) :
    w.addChild parent p = .error (.missingParent p.name) := by
  rw [addChild, hn]

theorem addChild_of_mem {above : Node} (ha : w.node? parent = some above)
    (hp : p.name ∈ above.children.map (·.1)) :
    w.addChild parent p = .error (.duplicateChild p.name) := by
  obtain ⟨c, hc⟩ : ∃ c, above.children.lookup p.name = some c := by
    rw [← Option.ne_none_iff_exists', Ne, lookup_eq_none, not_not]
    exact hp
  simp [addChild, ha, hc]

/-- A dead parent, a name in use, or a new child: each has its one result. -/
theorem FreeList.addChild_cases (hw : w.FreeList) (parent : Slot) (p : Package) :
    (w.node? parent = none ∧ w.addChild parent p = .error (.missingParent p.name)) ∨
      ∃ above, w.node? parent = some above ∧
        ((p.name ∈ above.children.map (·.1) ∧
            w.addChild parent p = .error (.duplicateChild p.name)) ∨
          (p.name ∉ above.children.map (·.1) ∧
            ∃ s grown, w.addChild parent p = .ok (s, grown) ∧ Attached w parent p s grown)) := by
  cases ha : w.node? parent with
  | none => exact Or.inl ⟨rfl, addChild_of_dead ha⟩
  | some above =>
    refine Or.inr ⟨above, rfl, ?_⟩
    by_cases hp : p.name ∈ above.children.map (·.1)
    · exact Or.inl ⟨hp, addChild_of_mem ha hp⟩
    · exact Or.inr ⟨hp, hw.exists_attached ha (lookup_eq_none.mpr hp)⟩

theorem Attached.newChild {above : Node} (hat : Attached w parent p s grown)
    (ha : w.node? parent = some above) : w.NewChild parent above p s grown where
  fresh := hat.fresh
  node := hat.node
  parent_node := by rw [hat.parent_node, ha, Option.map_some]
  others := hat.others

theorem Forest.attaches (hw : w.Forest []) (h : w.Stacked freed) (parent : Slot) (p : Package) :
    w.Attaches freed parent p where
  missing := by
    rcases hw.freeList.addChild_cases parent p with
      ⟨ha, he⟩ | ⟨above, ha, ⟨_, he⟩ | ⟨_, s, grown, he, _⟩⟩ <;> simp [he, ha]
  duplicate := by
    rcases hw.freeList.addChild_cases parent p with
      ⟨ha, he⟩ | ⟨above, ha, ⟨hp, he⟩ | ⟨hp, s, grown, he, _⟩⟩
    · simp [he, ha]
    · simpa [he, ha] using hp
    · simpa [he, ha] using hp
  fails := by
    intro fault hf
    refine ⟨?_, by simp [Workspace.apply, hf]⟩
    rcases hw.freeList.addChild_cases parent p with
      ⟨_, he⟩ | ⟨above, _, ⟨_, he⟩ | ⟨_, s, grown, he, _⟩⟩
    · exact Or.inl (Except.error.inj (hf.symm.trans he))
    · exact Or.inr (Except.error.inj (hf.symm.trans he))
    · simp [he] at hf
  attaches := by
    intro above ha hp
    obtain ⟨s, grown, he, hat⟩ := hw.freeList.exists_attached ha (lookup_eq_none.mpr hp)
    exact ⟨s, grown, he, by simp [Workspace.apply, he], hat.nextSlot hw.freeList h,
      hat.newChild ha⟩

/-- After every history a package is attached in the free slot that was freed last, below any
slot in hand, or nothing is changed. -/
theorem run_attaches (root : Package) (changes : List Change) (parent : Slot) (p : Package) :
    ((withRoot root).run changes).Attaches ((withRoot root).freedIn changes) parent p :=
  (forest_run root changes).attaches (stacked_run root changes) parent p

end BuildAtlas.Workspace
