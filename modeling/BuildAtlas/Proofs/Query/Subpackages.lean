import BuildAtlas.Proofs.Query.Dump
import BuildAtlas.Proofs.Workspace.Histories

/-! # Subpackages under any spelling of a path

The packages below a path are listed by texts that go on from the spelling that was asked with.
However many slashes that spelling has, a name put behind it is one more segment of the path that
it reads as, so each text that is listed leads to its own child and to nothing else. Only for the
root, of which every spelling is slashes or nothing, the texts start afresh.
-/
namespace BuildAtlas

namespace Workspace
variable {w : Workspace} {s : Slot} {n : Node} {child : String × Slot} {text name : String}

/-- The packages below the root have names that a path can be written with. -/
def PlainNames (w : Workspace) : Prop :=
  ∀ s n, w.node? s = some n → s ≠ rootSlot → PackagePath.Plain [n.package.name]

/-- The text by which a child is listed when the packages below another text are asked for. -/
structure ListedAs (w : Workspace) (text : String) (child : String × Slot) (entry : String) :
    Prop where
  read : PackagePath.read entry = PackagePath.read text ++ [child.1]
  found : w.find (.read entry) = some child.2
  package : ∃ m, w.node? child.2 = some m ∧ m.package.name = child.1 ∧
    w.packageAt entry = .ok m.package
  ofRoot : PackagePath.read text = [] → entry = "//" ++ child.1
  goesOn : PackagePath.read text ≠ [] → ∃ rest, entry = text ++ rest

/-- The children of the package at a text are listed in their order, each once. -/
structure ListsBelow (w : Workspace) (text : String) : Prop where
  refused : w.subpackagesAt text = .error (.unknownPath text) ↔ w.find (.read text) = none
  listed : ∀ s, w.find (.read text) = some s → ∃ n entries, w.node? s = some n ∧
    w.subpackagesAt text = .ok entries ∧ List.Forall₂ (w.ListedAs text) n.children entries ∧
    entries.Nodup

/-! ## One more segment -/

theorem exists_childPrefix_eq (hne : PackagePath.read text ≠ []) :
    ∃ rest, childPrefix text = text ++ rest := by
  rw [childPrefix, if_neg hne]
  split
  · exact ⟨"", String.append_empty.symm⟩
  · exact ⟨"/", rfl⟩

/-- A name put behind the prefix is read as one more segment. -/
theorem read_childPrefix_append (hname : PackagePath.Plain [name]) :
    PackagePath.read (childPrefix text ++ name) = PackagePath.read text ++ [name] := by
  rw [childPrefix]
  split
  · rename_i hroot
    rw [hroot]
    exact hname.read_render
  · split
    · rename_i hlast
      -- the last slash of the text is the one that sets the name apart
      obtain ⟨before, rfl⟩ : ∃ before, text = before ++ "/" :=
        ⟨String.ofList text.toList.dropLast, String.toList_injective (by
          simpa using (List.dropLast_append_getLast? '/' hlast).symm)⟩
      rw [PackagePath.read_append_slash_append, PackagePath.read_append_slash,
        PackagePath.read_of_plain hname]
    · rw [PackagePath.read_append_slash_append, PackagePath.read_of_plain hname]

/-! ## The children of a package -/

namespace Forest
variable (h : w.Forest []) (hplain : w.PlainNames)
include h

theorem subpackagesAt_eq_error_iff :
    w.subpackagesAt text = .error (.unknownPath text) ↔ w.find (.read text) = none := by
  cases hs : w.find (.read text) with
  | none => simp [subpackagesAt, nodeAt_of_find_none hs]
  | some s =>
    obtain ⟨n, hn⟩ := h.find_live hs
    simp [h.subpackagesAt_of_nodeAt (nodeAt_of_find hs hn)]

include hplain

theorem listedAs (hs : w.find (.read text) = some s) (hn : w.node? s = some n)
    (hchild : child ∈ n.children) : w.ListedAs text child (childPrefix text ++ child.1) := by
  obtain ⟨m, hm, hname, _⟩ := h.child ⟨n, hn, hchild⟩
  have hroot : child.2 ≠ rootSlot := by
    intro he
    have hold : w.Holds s child.1 child.2 := ⟨n, hn, hchild⟩
    exact h.not_holds_root (he ▸ hold)
  have hread : PackagePath.read (childPrefix text ++ child.1) =
      PackagePath.read text ++ [child.1] :=
    read_childPrefix_append (hname ▸ hplain child.2 m hm hroot)
  have hfound : w.find (.read (childPrefix text ++ child.1)) = some child.2 := by
    rw [hread]
    exact h.find_concat_iff.mpr ⟨s, hs, n, hn, hchild⟩
  refine ⟨hread, hfound, ⟨m, hm, hname, ?_⟩, fun he => ?_, fun hne => ?_⟩
  · rw [packageAt, nodeAt_of_find hfound hm]
  · rw [childPrefix, if_pos he]
  · obtain ⟨rest, hrest⟩ := exists_childPrefix_eq hne
    exact ⟨rest ++ child.1, by rw [hrest, String.append_assoc]⟩

theorem listsBelow (text : String) : w.ListsBelow text := by
  refine ⟨h.subpackagesAt_eq_error_iff, fun s hs => ?_⟩
  obtain ⟨n, hn⟩ := h.find_live hs
  refine ⟨n, _, hn, h.subpackagesAt_of_nodeAt (nodeAt_of_find hs hn), ?_, ?_⟩
  · rw [List.map_map, List.forall₂_map_right_iff, List.forall₂_same]
    exact fun child hchild => h.listedAs hplain hs hn hchild
  · exact (h.names s n hn).map fun _ _ he => (String.append_right_inj _).mp he

end Forest

theorem Legible.plainNames (h : w.Legible) : w.PlainNames := by
  intro s n hn hs
  obtain ⟨a, _, hold⟩ := h.forest.holds_of_live hn hs List.not_mem_nil
  have ⟨k, hk, _⟩ := hold
  obtain ⟨above, hf⟩ := h.forest.find_of_live hk
  have hpath := h.isPath _ s (h.forest.find_concat_iff.mpr ⟨a, hf, hold⟩)
  exact fun segment hmem => hpath.plain segment (List.mem_append_right above hmem)

end Workspace

namespace Query

/-- In every tree with plain names below the root, as in every index, the packages below a path
are listed alike under all its spellings. -/
theorem subpackages_listed_below :
    (∀ root changes, ((Workspace.withRoot root).run changes).PlainNames →
      ∀ text, ((Workspace.withRoot root).run changes).ListsBelow text) ∧
    ∀ {σ : Type} (tool : Tool σ) (shell : Shell) (s : Settings) (st : σ) (i : Index),
      (index tool shell s st).result = .ok i →
        i.workspace.PlainNames ∧ ∀ text, i.workspace.ListsBelow text := by
  refine ⟨fun root changes hplain text => (Workspace.forest_run root changes).listsBelow hplain text,
    fun tool shell s st i hi => ?_⟩
  have hlegible := legible_of_index hi
  exact ⟨hlegible.plainNames, hlegible.forest.listsBelow hlegible.plainNames⟩

/-- Two packages below `lib`, the second one attached in hand. -/
def attachedInHand : List Workspace.Change :=
  [.ensurePath ["lib", "b"], .addChild 1 { name := "a" }]

theorem subpackages_listed_below_attachedInHand :
    (Workspace.empty.run attachedInHand).PlainNames ∧
      (Workspace.empty.run attachedInHand).subpackagesAt "/lib//" = .ok ["/lib//b", "/lib//a"] ∧
      (Workspace.empty.run attachedInHand).ListsBelow "/lib//" := by
  have hnames : ∀ s < 4, ∀ n ∈ (Workspace.empty.run attachedInHand).node? s,
      s ≠ Workspace.rootSlot → n.package.name ≠ "" ∧ '/' ∉ n.package.name.toList := by decide
  have hplain : (Workspace.empty.run attachedInHand).PlainNames := by
    intro s n hn hs segment hmem
    obtain rfl := List.mem_singleton.mp hmem
    exact hnames s (Workspace.lt_size_of_node? hn) n hn hs
  exact ⟨hplain, by decide, subpackages_listed_below.1 _ attachedInHand hplain "/lib//"⟩

end Query

end BuildAtlas
