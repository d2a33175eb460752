import BuildAtlas.Proofs.Label.RoundTrip
import Mathlib.Data.List.Basic

/-! # Readers of package paths

A path is read off a text by cutting the text at its slashes, whatever else stands in it, and the
label reader finds one behind two slashes. Cutting undoes writing on every path that can be written
at all, and it takes the two sides of a slash apart. No other function does both, since the two
laws settle what the pieces between the slashes read as. The label reader is stricter: of the texts
with two slashes in front it takes those for a package alone in which the slashes stand as they are
written, and off these it reads the same path.
-/
namespace BuildAtlas

namespace PackagePath
variable {f g : String → PackagePath} {pieces : List String} {s : String}

structure IsReader (f : String → PackagePath) : Prop where
  append : ∀ before after, f (before ++ "/" ++ after) = f before ++ f after
  render : ∀ path : PackagePath, path.Plain → f path.render = path

theorem isReader_read : IsReader read := ⟨read_append_slash_append, fun _ h => h.read_render⟩

namespace IsReader

theorem slash (h : IsReader f) (text : String) : f ("/" ++ text) = f "" ++ f text := by
  have happend := h.append "" text
  rwa [String.empty_append] at happend

theorem empty (h : IsReader f) : f "" = [] := by
  -- the root is written with nothing but slashes, and on their left there is no text
  have hroot := h.render [] (by simp [Plain])
  rw [render_eq_slashes, h.slash] at hroot
  exact (List.append_eq_nil_iff.mp hroot).1

theorem segment (h : IsReader f) (hplain : Plain [s]) : f s = [s] := by
  have hwritten := h.render [s] hplain
  rw [render_eq_slashes, h.slash, h.slash, h.empty, List.nil_append, List.nil_append] at hwritten
  rwa [joined, String.intercalate_singleton] at hwritten

theorem joined_eq (h : IsReader f) (hne : pieces ≠ []) :
    f (joined pieces) = pieces.flatMap f := by
  induction pieces with
  | nil => exact absurd rfl hne
  | cons piece rest ih =>
    cases rest with
    | nil => rw [joined, String.intercalate_singleton, List.flatMap_singleton]
    | cons next rest =>
      have hrest := ih (List.cons_ne_nil next rest)
      rw [joined_cons (List.cons_ne_nil next rest), h.append, hrest, ← List.flatMap_cons]

theorem unique (h : IsReader f) (h' : IsReader g) : f = g := by
  funext text
  -- a piece between two slashes is empty or a segment
  have hpieces : ∀ s ∈ Label.segments text.toList, f s = g s := by
    intro s hs
    by_cases hempty : s = ""
    · rw [hempty, h.empty, h'.empty]
    · have hplain : Plain [s] := by
        simpa [Plain] using ⟨hempty, Label.noSlash_of_mem_segments hs⟩
      rw [h.segment hplain, h'.segment hplain]
  have hne := Label.segments_ne_nil text.toList
  calc f text = f (joined (Label.segments text.toList)) := by rw [joined_segments_toList]
    _ = (Label.segments text.toList).flatMap f := h.joined_eq hne
    _ = (Label.segments text.toList).flatMap g := List.flatMap_congr hpieces
    _ = g (joined (Label.segments text.toList)) := (h'.joined_eq hne).symm
    _ = g text := by rw [joined_segments_toList]

end IsReader

theorem isReader_iff : IsReader f ↔ f = read := by
  constructor
  · intro h
    exact h.unique isReader_read
  · rintro rfl
    exact isReader_read

end PackagePath

/-! ## Packages in labels -/

namespace Label
variable {text : String} {l : Label}

theorem exists_path_of_nameless (h : parse text = .ok l) (hslashes : ['/', '/'] <+: text.toList)
    (hname : l.name = "") :
    ∃ path, IsPath path ∧ text = path.render ∧ l = .absolute "" path "" := by
  obtain ⟨f, ⟨hvalid, rfl⟩, rfl⟩ := exists_spells_of_parse h
  obtain ⟨rest, hrest⟩ := hslashes
  cases f with
  | external workspace body =>
    rw [Form.text_external] at hrest
    cases hrest
  | plain b =>
    cases b with
    | absolute path name =>
      cases name with
      | none => exact ⟨path, hvalid.1, rfl, rfl⟩
      | some n => exact absurd hname (hvalid.2 n rfl).ne_empty
    | colon n =>
      rw [Form.text, Body.text_colon] at hrest
      cases hrest
  | file text => exact absurd hrest.symm ((Form.valid_file_iff.mp hvalid).2 rest).2.1

theorem exists_nameless_iff (hslashes : ['/', '/'] <+: text.toList) :
    (∃ l, parse text = .ok l ∧ l.name = "") ↔
      (PackagePath.read text).render = text ∧ ':' ∉ text.toList := by
  constructor
  · rintro ⟨l, hparse, hname⟩
    obtain ⟨path, hpath, rfl, -⟩ := exists_path_of_nameless hparse hslashes hname
    have hread := hpath.plain.read_render
    refine ⟨by rw [hread], PackagePath.isPath_read_iff.mp ?_⟩
    rwa [hread]
  · rintro ⟨hwritten, hcolon⟩
    have hparse := (PackagePath.isPath_read_iff.mpr hcolon).parse_render
    rw [hwritten] at hparse
    exact ⟨_, hparse, rfl⟩

end Label

namespace PackagePath

/-- Cutting at slashes gives paths that can be written, undoes the writing of these and of no other,
and takes the two sides of a slash apart, which makes it the only reader of this kind. A label
without a name that begins with two slashes has the path that cutting gives, and a text is one just
when that path is written as this text and there is no colon in it. -/
theorem readers_agree :
    (∀ text, read (read text).render = read text ∧ (read text).Plain) ∧
    (∀ path : PackagePath, read path.render = path ↔ path.Plain) ∧
    (∀ before after, read (before ++ "/" ++ after) = read before ++ read after) ∧
    (∀ f, IsReader f ↔ f = read) ∧
    ∀ text, ['/', '/'] <+: text.toList →
      (∀ l, Label.parse text = .ok l → l.name = "" → read text = l.packagePath) ∧
      ((∃ l, Label.parse text = .ok l ∧ l.name = "") ↔
        (read text).render = text ∧ ':' ∉ text.toList) := by
  refine ⟨fun text => ?_, fun path => read_render_iff, read_append_slash_append,
    fun f => isReader_iff, fun text hslashes => ⟨fun l hparse hname => ?_, ?_⟩⟩
  · have hplain := plain_read text
    exact ⟨hplain.read_render, hplain⟩
  · obtain ⟨path, hpath, rfl, rfl⟩ := Label.exists_path_of_nameless hparse hslashes hname
    exact hpath.plain.read_render
  · exact Label.exists_nameless_iff hslashes

theorem readers_agree_nested : ['/', '/'] <+: "//main/java".toList ∧
    Label.parse "//main/java" = .ok (.absolute "" ["main", "java"] "") ∧
    read "//main/java" = ["main", "java"] := by
  have hslashes : ['/', '/'] <+: "//main/java".toList := by decide +kernel
  have hparse : Label.parse "//main/java" = .ok (.absolute "" ["main", "java"] "") := by
    decide +kernel
  obtain ⟨-, -, -, -, hlabels⟩ := readers_agree
  exact ⟨hslashes, hparse, (hlabels _ hslashes).1 _ hparse rfl⟩

end PackagePath

end BuildAtlas
