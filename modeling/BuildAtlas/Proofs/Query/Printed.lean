import BuildAtlas.Proofs.Label.Path
import BuildAtlas.Proofs.Query.Checking
import BuildAtlas.Proofs.Text.Fields

/-! # Items and the lines they are printed in

A line is read by its fields: the label of the item is the last one, and the kind of a target the
first. The label of a target has two spellings, with and without an at sign in front, and without
one it is what is written for the item. So the lines that read as an item are those in which its
label stands last, and nothing of the label is lost in the item.
-/
namespace BuildAtlas

/-! ## Labels of targets -/

namespace Label
variable {text : String} {package package' : PackagePath} {name name' : String}

structure NamesTarget (text : String) (package : PackagePath) (name : String) : Prop where
  parse_eq : parse text = .ok (.absolute "" package name)
  named : name ≠ ""

/-- A package and a name that can be written as a label in one field. -/
structure Printable (package : PackagePath) (name : String) : Prop where
  isPath : IsPath package
  isName : IsName name
  unbroken : ∀ s ∈ name :: package, Text.Unbroken s

theorem namesTarget_iff : NamesTarget text package name ↔
    workspaceTarget? text = some (package, name) := by
  rw [workspaceTarget?_eq_some_iff]
  exact ⟨fun h => ⟨h.parse_eq, h.named⟩, fun ⟨hparse, hnamed⟩ => ⟨hparse, hnamed⟩⟩

theorem NamesTarget.unique (h : NamesTarget text package name)
    (h' : NamesTarget text package' name') : package = package' ∧ name = name' := by
  have hl := Except.ok.inj (h.parse_eq.symm.trans h'.parse_eq)
  simpa using hl

theorem NamesTarget.written (hp : IsPath package) (hn : IsName name) :
    NamesTarget (package.render ++ ":" ++ name) package name :=
  ⟨hp.parse_render_named hn, hn.ne_empty⟩

section forms
variable {f : Form} {b : Body}

theorem Form.body?_of_label (h : f.label = .absolute "" package name) (hn : name ≠ "") :
    f.body? = some (.absolute package (some name)) := by
  cases f with
  | external workspace body =>
    by_cases hw : workspace = "" <;> rcases body with _ | ⟨p, _ | n⟩ | n <;>
      simp_all [label, Body.label, body?]
  | plain body => rcases body with ⟨p, _ | n⟩ | n <;> simp_all [label, Body.label, body?]
  | file text => cases h

theorem Form.Valid.body (h : f.Valid) (hb : f.body? = some b) : b.Valid := by
  cases f with
  | external workspace body => exact h.2.2 b hb
  | plain body => exact Option.some.inj hb ▸ h
  | file text => cases hb

theorem Form.exists_front (hb : f.body? = some b) : ∃ front, f.text = front ++ b.text := by
  cases f with
  | external workspace body =>
    obtain rfl : body = some b := hb
    exact ⟨"@" ++ workspace, rfl⟩
  | plain body =>
    obtain rfl := Option.some.inj hb
    exact ⟨"", String.empty_append.symm⟩
  | file text => cases hb

end forms

theorem NamesTarget.spelled (h : NamesTarget text package name) : IsPath package ∧ IsName name ∧
    ∃ front, text = front ++ (package.render ++ ":" ++ name) := by
  obtain ⟨f, ⟨hvalid, rfl⟩, hlabel⟩ := exists_spells_of_parse h.parse_eq
  have hbody := Form.body?_of_label hlabel h.named
  obtain ⟨hpath, hname⟩ := hvalid.body hbody
  exact ⟨hpath, hname name rfl, Form.exists_front hbody⟩

/-! ## Labels as fields -/

theorem unbroken_written_iff : Text.Unbroken (package.render ++ ":" ++ name) ↔
    ∀ s ∈ name :: package, Text.Unbroken s := by
  have hslash : Text.isBlank '/' = false := by decide
  have hcolon : Text.isBlank ':' = false := by decide
  have hjoined : Text.Unbroken package.joined ↔ ∀ s ∈ package, Text.Unbroken s := by
    constructor
    · intro h s hs c hc
      by_cases he : c = '/'
      · exact he ▸ hslash
      · exact h c ((mem_joined_iff he).mpr ⟨s, hs, hc⟩)
    · intro h c hc
      by_cases he : c = '/'
      · exact he ▸ hslash
      · obtain ⟨s, hs, hcs⟩ := (mem_joined_iff he).mp hc
        exact h s hs c hcs
  rw [List.forall_mem_cons, ← hjoined]
  simp only [Text.Unbroken, PackagePath.render, String.toList_append, List.mem_append]
  constructor
  · exact fun h => ⟨fun c hc => h c (.inr hc), fun c hc => h c (.inl (.inl (.inr hc)))⟩
  · rintro ⟨hn, hp⟩ c (((hc | hc) | hc) | hc)
    · obtain rfl : c = '/' := by simpa using hc
      exact hslash
    · exact hp c hc
    · obtain rfl : c = ':' := by simpa using hc
      exact hcolon
    · exact hn c hc

theorem Printable.isField (h : Printable package name) :
    Text.IsField (package.render ++ ":" ++ name) :=
  ⟨by simp [PackagePath.render], unbroken_written_iff.mpr h.unbroken⟩

theorem NamesTarget.printable (h : NamesTarget text package name) (hfield : Text.IsField text) :
    Printable package name := by
  obtain ⟨hp, hn, front, rfl⟩ := h.spelled
  refine ⟨hp, hn, unbroken_written_iff.mp fun c hc => hfield.unbroken c ?_⟩
  rw [String.toList_append]
  exact List.mem_append_right _ hc

theorem Printable.namesTarget (h : Printable package name) :
    NamesTarget (package.render ++ ":" ++ name) package name := .written h.isPath h.isName

end Label

/-! ## Targets -/

namespace Target
variable {t : Target} {line : String}

structure Printable (t : Target) : Prop where
  kind : Text.IsField t.kind
  label : Label.Printable t.package t.name

/-- Wherever the kind stands first and the label last, the target is read. -/
structure ReadsBack (t : Target) : Prop where
  plain : ofLine? (t.kind ++ " rule " ++ t.label) = some t
  laidOut : ∀ middle line, Text.LaidOut (t.kind :: middle ++ [t.label]) line →
    ofLine? line = some t

theorem ofLine?_iff_laidOut : ofLine? line = some t ↔ ∃ middle label,
    Text.LaidOut (t.kind :: middle ++ [label]) line ∧
      Label.NamesTarget label t.package t.name := by
  simp only [ofLine?_eq_some_iff, Label.namesTarget_iff, Text.fields_eq_iff]

theorem printable_of_ofLine? (h : ofLine? line = some t) : t.Printable := by
  obtain ⟨middle, label, hlaid, hlabel⟩ := ofLine?_iff_laidOut.mp h
  have hfields := hlaid.isField
  exact ⟨hfields t.kind (by simp), hlabel.printable (hfields label (by simp))⟩

theorem Printable.readsBack (h : t.Printable) : t.ReadsBack := by
  have hread : ∀ middle line, Text.LaidOut (t.kind :: middle ++ [t.label]) line →
      ofLine? line = some t := fun middle line hlaid =>
    ofLine?_iff_laidOut.mpr ⟨middle, t.label, hlaid, h.label.namesTarget⟩
  refine ⟨hread ["rule"] _ ?_, hread⟩
  have hrule : Text.IsField "rule" := ⟨by decide, by simp [Text.Unbroken, Text.isBlank]⟩
  have hline : t.kind ++ " rule " ++ t.label = " ".intercalate [t.kind, "rule", t.label] := by
    have hspaces : " rule " = " " ++ "rule" ++ " " := by decide
    simp only [hspaces, String.intercalate_cons_cons, String.intercalate_singleton,
      String.append_assoc]
  rw [hline]
  exact Text.laidOut_intercalate (by simpa using ⟨h.kind, hrule, h.label.isField⟩)

/-- A line reads as the target whose kind stands first in it and whose label stands last, and every
target that can be printed is read back, whatever stands between the two and around them. -/
theorem reads_printed_lines :
    (∀ line t, ofLine? line = some t ↔ ∃ middle label,
      Text.LaidOut (t.kind :: middle ++ [label]) line ∧
        Label.NamesTarget label t.package t.name) ∧
    (∀ line t, ofLine? line = some t → t.ReadsBack) ∧
    ∀ t : Target, t.Printable → t.ReadsBack :=
  ⟨fun _ _ => ofLine?_iff_laidOut, fun _ _ h => (printable_of_ofLine? h).readsBack,
    fun _ h => h.readsBack⟩

end Target

/-! ## Source files -/

section names
variable {name directory : String}

theorem Label.IsName.isPath_segments (h : IsName name) : IsPath (segments name.toList) := by
  obtain ⟨path, hne, hpath, rfl⟩ := h
  rwa [hpath.segments_joined hne]

theorem Label.IsName.read_eq (h : IsName name) : PackagePath.read name = segments name.toList := by
  have hread := h.isPath_segments.plain.read_joined
  rwa [joined_segments_toList] at hread

theorem Label.segments_below (hd : '/' ∉ directory.toList) :
    segments (directory ++ "/" ++ name).toList = directory :: segments name.toList := by
  have hjoined : PackagePath.joined (directory :: segments name.toList) =
      directory ++ "/" ++ name := by
    rw [PackagePath.joined_cons (segments_ne_nil _), joined_segments_toList]
  rw [← hjoined]
  refine segments_joined (List.cons_ne_nil _ _) (List.forall_mem_cons.mpr ⟨hd, fun s hs => ?_⟩)
  exact noSlash_of_mem_segments hs

/-- A directory at the end of the package can be written as the first of the name. -/
theorem Label.Printable.below {package : PackagePath}
    (h : Printable (package ++ [directory]) name) :
    Printable package (directory ++ "/" ++ name) := by
  obtain ⟨hpath, ⟨path, hne, hname, rfl⟩, hunbroken⟩ := h
  have hdirectory : IsSegment directory := hpath directory (by simp)
  refine ⟨fun s hs => hpath s (by simp [hs]), ⟨directory :: path, List.cons_ne_nil _ _,
    List.forall_mem_cons.mpr ⟨hdirectory, hname⟩, PackagePath.joined_cons hne⟩, fun s hs => ?_⟩
  rcases List.mem_cons.mp hs with rfl | hs
  · intro c hc
    simp only [String.toList_append, List.mem_append] at hc
    rcases hc with (hc | hc) | hc
    · exact hunbroken directory (by simp) c hc
    · obtain rfl : c = '/' := by simpa using hc
      decide
    · exact hunbroken _ List.mem_cons_self c hc
  · exact hunbroken s (by simp [hs])

end names

namespace SourceFile
variable {f g : SourceFile} {line line' : String} {package package' : PackagePath}
  {name name' : String}

def LabelledAs (line : String) (package : PackagePath) (name : String) : Prop :=
  ∃ front label, Text.LaidOut (front ++ [label]) line ∧ Label.NamesTarget label package name

theorem LabelledAs.unique (h : LabelledAs line package name)
    (h' : LabelledAs line package' name') : package = package' ∧ name = name' := by
  obtain ⟨front, label, hlaid, hlabel⟩ := h
  obtain ⟨front', label', hlaid', hlabel'⟩ := h'
  have hfields := hlaid.fields_eq.symm.trans hlaid'.fields_eq
  obtain ⟨-, hlast⟩ := List.append_inj' hfields rfl
  obtain rfl := List.singleton_inj.mp hlast
  exact hlabel.unique hlabel'

theorem LabelledAs.printable (h : LabelledAs line package name) :
    Label.Printable package name := by
  obtain ⟨front, label, hlaid, hlabel⟩ := h
  exact hlabel.printable (hlaid.isField label (by simp))

theorem ofLine?_iff_labelledAs : ofLine? line = some f ↔
    ∃ package name, LabelledAs line package name ∧ f = inPackage package name := by
  simp only [ofLine?_eq_some_iff, LabelledAs, Label.namesTarget_iff, Text.fields_eq_iff]
  constructor
  · rintro ⟨front, label, package, name, hlaid, hlabel, hf⟩
    exact ⟨package, name, ⟨front, label, hlaid, hlabel⟩, hf⟩
  · rintro ⟨package, name, ⟨front, label, hlaid, hlabel⟩, hf⟩
    exact ⟨front, label, package, name, hlaid, hlabel, hf⟩

theorem ofLine?_written (h : Label.Printable package name) :
    ofLine? (package.render ++ ":" ++ name) = some (inPackage package name) := by
  refine ofLine?_iff_labelledAs.mpr ⟨package, name, ⟨[], _, ?_, h.namesTarget⟩, rfl⟩
  have hfields : ∀ field ∈ [package.render ++ ":" ++ name], Text.IsField field := by
    simpa using h.isField
  have hlaid := Text.laidOut_intercalate hfields
  rwa [String.intercalate_singleton] at hlaid

theorem path_inPackage (h : Label.IsName name) :
    (inPackage package name).path = package ++ Label.segments name.toList := by
  rw [inPackage, h.read_eq]

theorem name_inPackage (h : Label.IsName name) :
    (Label.segments name.toList).getLast? = some (inPackage package name).name := by
  have hne := Label.segments_ne_nil name.toList
  rw [inPackage, h.read_eq, List.getLastD_eq_getLast?, List.getLast?_append_of_ne_nil _ hne]
  rw [List.getLast?_eq_some_getLast hne, Option.getD_some]

theorem inPackage_inj (h : Label.IsName name) (h' : Label.IsName name') :
    inPackage package name = inPackage package' name' ↔ package = package' ∧ name = name' := by
  constructor
  · intro he
    obtain rfl : package = package' := Option.some.inj (congrArg SourceFile.package he)
    have hpath := congrArg path he
    rw [path_inPackage h, path_inPackage h'] at hpath
    have hsegments := congrArg PackagePath.joined (List.append_cancel_left hpath)
    rw [joined_segments_toList, joined_segments_toList] at hsegments
    exact ⟨rfl, hsegments⟩
  · rintro ⟨rfl, rfl⟩
    rfl

/-- A file is the same as another just when their labels have the same parts, all of which can be
taken from the file again. A directory that belongs to the name makes another file than one that
belongs to the package, though both have the same path. -/
theorem keeps_labels_apart :
    (∀ line line' f f', ofLine? line = some f → ofLine? line' = some f' →
      ∀ package name package' name', LabelledAs line package name →
        LabelledAs line' package' name' → (f = f' ↔ package = package' ∧ name = name')) ∧
    (∀ line f, ofLine? line = some f → ∃ package name, LabelledAs line package name ∧
      f.package = some package ∧ f.owner = package ∧
      f.path = package ++ Label.segments name.toList ∧
      (Label.segments name.toList).getLast? = some f.name ∧
      ofLine? (package.render ++ ":" ++ PackagePath.joined (f.path.drop package.length)) =
        some f) ∧
    ∀ package directory name, Label.Printable (package ++ [directory]) name → ∃ inside below,
      ofLine? (package.render ++ ":" ++ (directory ++ "/" ++ name)) = some inside ∧
      ofLine? (PackagePath.render (package ++ [directory]) ++ ":" ++ name) = some below ∧
      inside.path = below.path ∧ inside.owner = package ∧ below.owner = package ++ [directory] ∧
      inside ≠ below := by
  refine ⟨fun line line' f f' hf hf' package name package' name' h h' => ?_, fun line f hf => ?_,
    fun package directory name h => ?_⟩
  · obtain ⟨_, _, hown, rfl⟩ := ofLine?_iff_labelledAs.mp hf
    obtain ⟨_, _, hown', rfl⟩ := ofLine?_iff_labelledAs.mp hf'
    obtain ⟨rfl, rfl⟩ := hown.unique h
    obtain ⟨rfl, rfl⟩ := hown'.unique h'
    exact inPackage_inj h.printable.isName h'.printable.isName
  · obtain ⟨package, name, h, rfl⟩ := ofLine?_iff_labelledAs.mp hf
    have hname := h.printable.isName
    refine ⟨package, name, h, rfl, rfl, path_inPackage hname, name_inPackage hname, ?_⟩
    rw [path_inPackage hname, List.drop_left, joined_segments_toList]
    exact ofLine?_written h.printable
  · have hdirectory : Label.IsSegment directory := h.isPath directory (by simp)
    refine ⟨_, _, ofLine?_written h.below, ofLine?_written h, ?_, rfl, rfl, fun he => ?_⟩
    · -- the directory is the last segment of one package and the first of the other name
      rw [path_inPackage h.below.isName, path_inPackage h.isName,
        Label.segments_below hdirectory.noSlash, List.append_assoc, List.singleton_append]
    · have hpackage := Option.some.inj (congrArg SourceFile.package he)
      simp at hpackage

example : SourceFile.ofLine? "//a:b/c" = some ⟨"c", ["a", "b", "c"], some ["a"]⟩ ∧
    SourceFile.ofLine? "//a/b:c" = some ⟨"c", ["a", "b", "c"], some ["a", "b"]⟩ := by
  decide +kernel

end SourceFile

end BuildAtlas
