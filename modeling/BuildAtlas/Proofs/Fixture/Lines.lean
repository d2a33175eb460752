import BuildAtlas.Fixture
import BuildAtlas.Proofs.Query.Legible
import BuildAtlas.Proofs.Query.Printed
import BuildAtlas.Proofs.Text.Rows

/-! # Generated listings are read in full

The names in a generated workspace are words, with nothing in them that parts a line into fields or
a label into pieces. So a generated listing has one line for each of its items, and each line reads
as the item that it was made for.
-/
namespace BuildAtlas

namespace Fixture

/-! ## Words -/

def isWordChar (c : Char) : Bool := !Text.isBlank c && c != '/' && c != ':'

def IsWord (s : String) : Prop := s ≠ "" ∧ s.toList.all isWordChar = true

instance (s : String) : Decidable (IsWord s) := inferInstanceAs (Decidable (_ ∧ _))

section words
variable {s s' : String} {c : Char} {top depth : Nat}

theorem isWordChar_of_isDigit (h : c.isDigit = true) : isWordChar c = true := by
  have hvalue : c.isDigit = (decide (c.val ≥ 48) && decide (c.val ≤ 57)) := rfl
  rw [hvalue, Bool.and_eq_true, decide_eq_true_eq, decide_eq_true_eq] at h
  have hrange : 48 ≤ c.toNat ∧ c.toNat ≤ 57 := h
  have hblank : Text.isBlank c = false := by
    simp only [Text.isBlank, Bool.or_eq_false_iff, Bool.and_eq_false_iff, beq_eq_false_iff_ne,
      decide_eq_false_iff_not]
    omega
  have hslash : c ≠ '/' := by
    rintro rfl
    exact absurd hrange.1 (by decide)
  have hcolon : c ≠ ':' := by
    rintro rfl
    exact absurd hrange.2 (by decide)
  simp [isWordChar, hblank, hslash, hcolon]

theorem IsWord.isWordChar (h : IsWord s) (hc : c ∈ s.toList) : isWordChar c = true :=
  List.all_eq_true.mp h.2 c hc

theorem IsWord.append (h : IsWord s) (h' : IsWord s') : IsWord (s ++ s') := by
  refine ⟨by simp [h.1], ?_⟩
  rw [String.toList_append, List.all_append, h.2, h'.2]
  rfl

theorem IsWord.isSegment (h : IsWord s) : Label.IsSegment s :=
  ⟨h.1, fun hc => absurd (h.isWordChar hc) (by decide),
    fun hc => absurd (h.isWordChar hc) (by decide)⟩

theorem IsWord.isName (h : IsWord s) : Label.IsName s :=
  ⟨[s], List.cons_ne_nil _ _, List.forall_mem_singleton.mpr h.isSegment,
    String.intercalate_singleton⟩

theorem IsWord.isField (h : IsWord s) : Text.IsField s := by
  refine ⟨h.1, fun c hc => ?_⟩
  have hword := h.isWordChar hc
  simp only [Fixture.isWordChar, Bool.and_eq_true, Bool.not_eq_true'] at hword
  exact hword.1.1

theorem isWord_toString (n : Nat) : IsWord (toString n) := by
  rw [Nat.toString_eq_repr]
  refine ⟨Nat.repr_ne_empty, List.all_eq_true.mpr fun c hc => ?_⟩
  rw [Nat.toList_repr] at hc
  exact isWordChar_of_isDigit (Nat.isDigit_of_mem_toDigits (by decide) (by decide) hc)

/-- Numerals tell numbers apart. -/
theorem append_toString_injective (s : String) :
    Function.Injective fun n : Nat => s ++ toString n := by
  intro m n h
  have hnumerals : toString m = toString n := (String.append_right_inj s).mp h
  have hdigits : Nat.toDigits 10 m = Nat.toDigits 10 n := by
    simpa [Nat.toString_eq_repr] using congrArg String.toList hnumerals
  have hnumbers := congrArg (fun digits => Nat.ofDigitChars 10 digits 0) hdigits
  simpa using hnumbers

theorem isWord_numbered (h : IsWord s) (n : Nat) : IsWord (s ++ toString n) :=
  h.append (isWord_toString n)

theorem isWord_kind (n : Nat) : IsWord (kind n) := by
  have hall : kinds.all (fun k => decide (IsWord k)) = true := by decide
  have hlt : n % kinds.length < kinds.length := Nat.mod_lt _ (by decide)
  rw [kind, List.getD_eq_getElem?_getD, List.getElem?_eq_getElem hlt, Option.getD_some]
  exact of_decide_eq_true (List.all_eq_true.mp hall _ (List.getElem_mem hlt))

theorem isWord_of_mem_chain (h : s ∈ chain top depth) : IsWord s := by
  rcases List.mem_cons.mp h with rfl | h
  · exact isWord_numbered (by decide) top
  · obtain ⟨d, -, rfl⟩ := List.mem_map.mp h
    exact isWord_numbered (by decide) d

end words

/-! ## The items of a listing -/

section items
variable (f : Fixture)

/-- The targets in a package that stands at this place in the list of packages. -/
def targetsIn (place : PackagePath × Nat) : List Target :=
  (List.range f.targetsPerPackage).map fun t =>
    ⟨place.1, "target_" ++ toString t, kind (place.2 + t)⟩

def targets : List Target := f.packages.zipIdx.flatMap f.targetsIn

def fileName (n : Nat) : String := "file_" ++ toString n ++ ".cc"

def filesIn (package : PackagePath) : List SourceFile :=
  (List.range f.filesPerPackage).map fun n => .inPackage package (fileName n)

def files : List SourceFile := f.packages.flatMap f.filesIn

section printable
variable {f} {path : PackagePath} {name : String}

theorem mem_packages :
    path ∈ f.packages ↔ ∃ top < f.topLevel, ∃ d ≤ f.depth, chain top d = path := by
  simp only [packages, List.mem_flatMap, List.mem_map, List.mem_range, Nat.lt_succ_iff]

theorem isWord_of_mem_packages (h : path ∈ f.packages) : ∀ s ∈ path, IsWord s := by
  obtain ⟨top, -, d, -, rfl⟩ := mem_packages.mp h
  exact fun s => isWord_of_mem_chain

theorem printable_of_mem_packages (h : path ∈ f.packages) (hname : IsWord name) :
    Label.Printable path name := by
  have hpath := isWord_of_mem_packages h
  exact ⟨fun s hs => (hpath s hs).isSegment, hname.isName,
    List.forall_mem_cons.mpr ⟨hname.isField.unbroken, fun s hs => (hpath s hs).isField.unbroken⟩⟩

theorem isWord_fileName (n : Nat) : IsWord (fileName n) :=
  (isWord_numbered (by decide) n).append (by decide)

theorem printable_of_mem_targets {t : Target} (h : t ∈ f.targets) : t.Printable := by
  obtain ⟨⟨package, p⟩, hplace, ht⟩ := List.mem_flatMap.mp h
  obtain ⟨n, -, rfl⟩ := List.mem_map.mp ht
  have hpackage : package ∈ f.packages := (List.mem_zipIdx hplace).2.2 ▸ List.getElem_mem _
  exact ⟨(isWord_kind _).isField,
    printable_of_mem_packages hpackage (isWord_numbered (by decide) n)⟩

end printable

end items

/-! ## The lines of a listing -/

/-- A text on one line, its fields kept apart by spaces alone. -/
def IsSpaced (line : String) : Prop := ∀ c ∈ line.toList, Text.isBlank c = true → c = ' '

section lines
variable {lines : List String} {line : String}

theorem isSpaced_of_unbroken (h : Text.Unbroken line) : IsSpaced line := by
  intro c hc hblank
  rw [h c hc] at hblank
  cases hblank

theorem IsSpaced.not_mem (h : IsSpaced line) : '\n' ∉ line.toList ∧ '\r' ∉ line.toList := by
  constructor
  · intro hc
    have hspace := h '\n' hc (by decide)
    exact absurd hspace (by decide)
  · intro hc
    have hspace := h '\r' hc (by decide)
    exact absurd hspace (by decide)

theorem splitOn_listing (h : ∀ line ∈ lines, IsSpaced line) :
    (listing lines).toList.splitOn '\n' = lines.map String.toList ++ [[]] := by
  rw [listing, String.toList_join, List.flatMap_map]
  induction lines with
  | nil => rfl
  | cons line lines ih =>
    obtain ⟨hline, hlines⟩ := List.forall_mem_cons.mp h
    have hfirst : line.toList.splitOn '\n' = [line.toList] :=
      List.splitOnP_eq_singleton fun c hc => by
        simpa using ne_of_mem_of_not_mem hc hline.not_mem.1
    have hnewline : (line ++ "\n").toList = line.toList ++ ['\n'] := by simp
    rw [List.flatMap_cons, hnewline, List.append_assoc, List.singleton_append,
      Text.splitOn_append_newline, hfirst, ih hlines]
    rfl

theorem lines_listing (h : ∀ line ∈ lines, IsSpaced line) : Text.lines (listing lines) = lines := by
  have hreturn : (lines.map String.toList).map Text.dropReturn = lines.map String.toList := by
    rw [List.map_map]
    refine List.map_congr_left fun line hline => ?_
    have hlast : line.toList.getLast? ≠ some '\r' := fun hlast =>
      (h line hline).not_mem.2 (List.mem_of_getLast? hlast)
    rw [Function.comp_apply, Text.dropReturn, if_neg hlast]
  rw [Text.lines, splitOn_listing h, Text.linesOfStretches, List.dropLast_concat,
    List.getLast?_concat, hreturn]
  simp

end lines

section read
variable (f : Fixture)

theorem targetLines_eq :
    f.targetLines = f.targets.map fun t => t.kind ++ " rule " ++ t.label := by
  have hcolon : ":target_" = ":" ++ "target_" := by decide
  rw [targetLines, targets, List.map_flatMap]
  refine List.flatMap_congr fun place _ => ?_
  rw [targetsIn, List.map_map]
  refine List.map_congr_left fun n _ => ?_
  simp only [Function.comp_apply, Target.label, hcolon, String.append_assoc]

theorem sourceLines_eq : f.sourceLines = f.packages.flatMap fun package =>
    (List.range f.filesPerPackage).map fun n => package.render ++ ":" ++ fileName n := by
  have hcolon : ":file_" = ":" ++ "file_" := by decide
  simp only [sourceLines, fileName, hcolon, String.append_assoc]

theorem isSpaced_of_mem_targetLines {line : String} (h : line ∈ f.targetLines) :
    IsSpaced line := by
  rw [targetLines_eq] at h
  obtain ⟨t, ht, rfl⟩ := List.mem_map.mp h
  have hprintable := printable_of_mem_targets ht
  have hrule : " rule ".toList.all (fun c => !Text.isBlank c || c == ' ') = true := by decide
  intro c hc hblank
  simp only [String.toList_append, List.mem_append] at hc
  rcases hc with (hc | hc) | hc
  · exact isSpaced_of_unbroken hprintable.kind.unbroken c hc hblank
  · have hmiddle := List.all_eq_true.mp hrule c hc
    simpa [hblank] using hmiddle
  · exact isSpaced_of_unbroken hprintable.label.isField.unbroken c hc hblank

theorem isSpaced_of_mem_sourceLines {line : String} (h : line ∈ f.sourceLines) :
    IsSpaced line := by
  rw [sourceLines_eq] at h
  obtain ⟨package, hpackage, hline⟩ := List.mem_flatMap.mp h
  obtain ⟨n, -, rfl⟩ := List.mem_map.mp hline
  have hprintable := printable_of_mem_packages hpackage (isWord_fileName n)
  exact isSpaced_of_unbroken hprintable.isField.unbroken

theorem map_ofLine?_targetLines : f.targetLines.map Target.ofLine? = f.targets.map some := by
  rw [targetLines_eq, List.map_map]
  exact List.map_congr_left fun t ht => (printable_of_mem_targets ht).readsBack.plain

theorem map_ofLine?_sourceLines :
    f.sourceLines.map SourceFile.ofLine? = f.files.map some := by
  rw [sourceLines_eq, files, List.map_flatMap, List.map_flatMap]
  refine List.flatMap_congr fun package hpackage => ?_
  rw [filesIn, List.map_map, List.map_map]
  refine List.map_congr_left fun n _ => ?_
  exact SourceFile.ofLine?_written (printable_of_mem_packages hpackage (isWord_fileName n))

end read

end Fixture

/-! ## Reading a listing -/

theorem Listing.read_eq_of_map_eq {α : Type} {parse : String → Option α} {lines : List String}
    {items : List α} (hblank : ∀ line, Text.allBlank line = true → parse line = none)
    (h : lines.map parse = items.map some) : read parse lines = ⟨items, []⟩ := by
  have hitems : (read parse lines).items = items := by
    have hread : (lines.map parse).filterMap id = (items.map some).filterMap id := by rw [h]
    rw [items_read hblank]
    simpa [List.filterMap_map] using hread
  have hskipped : (read parse lines).skipped = [] := by
    refine List.filter_eq_nil_iff.mpr fun line hline => ?_
    have hmem : parse line ∈ items.map some :=
      h ▸ List.mem_map_of_mem (List.mem_of_mem_filter hline)
    obtain ⟨item, -, hitem⟩ := List.mem_map.mp hmem
    simp [← hitem]
  rw [← hitems, ← hskipped]

namespace Fixture
variable (f : Fixture) {o : Output}

theorem targets_of_stdout (h : o.stdout = f.targetListing) :
    Listing.targets o = ⟨f.targets, []⟩ := by
  have hlines : o.stdoutLines = f.targetLines := by
    rw [Output.stdoutLines, h]
    exact lines_listing fun line => f.isSpaced_of_mem_targetLines
  rw [Listing.targets, hlines]
  exact Listing.read_eq_of_map_eq (fun _ => Target.ofLine?_of_allBlank) f.map_ofLine?_targetLines

theorem sources_of_stdout (h : o.stdout = f.sourceListing) :
    Listing.sources o = ⟨f.files, []⟩ := by
  have hlines : o.stdoutLines = f.sourceLines := by
    rw [Output.stdoutLines, h]
    exact lines_listing fun line => f.isSpaced_of_mem_sourceLines
  rw [Listing.sources, hlines]
  exact Listing.read_eq_of_map_eq (fun _ => SourceFile.ofLine?_of_allBlank)
    f.map_ofLine?_sourceLines

end Fixture

end BuildAtlas
