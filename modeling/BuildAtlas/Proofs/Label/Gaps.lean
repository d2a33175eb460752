import BuildAtlas.Proofs.Label.Path
import BuildAtlas.Proofs.Label.RoundTrip

/-! # Gaps in the path of a label

Cutting a text at its slashes leaves an empty piece where a slash stands at an end of the text or
next to another one. A package with such a gap is refused, while the path of a file is taken as it
was typed, gaps included. So gaps are found in the labels of files alone, and apart from them the
spelling of a package path reads as the path again. No two paths of labels are spelled alike.
-/
namespace BuildAtlas

namespace Label
variable {cs : List Char} {text text' : String} {l l' : Label}

/-! ## Texts -/

def Gapped (text : String) : Prop :=
  ['/'] <+: text.toList ∨ ['/'] <:+ text.toList ∨ ['/', '/'] <:+: text.toList

theorem nil_mem_splitOn_iff (cs : List Char) : [] ∈ cs.splitOn '/' ↔
    cs = [] ∨ ['/'] <+: cs ∨ [] ∈ (cs.splitOn '/').tail := by
  cases cs with
  | nil => simp
  | cons c cs =>
    obtain ⟨first, rest, hsplit⟩ := List.exists_cons_of_ne_nil (List.splitOn_ne_nil '/' cs)
    rw [List.splitOn_cons_eq_if_modifyHead, hsplit]
    by_cases hc : c = '/'
    · simp [hc]
    · simp [hc, Ne.symm hc]

/-- Behind the first piece, an empty one stands at the end or between two slashes. -/
theorem nil_mem_tail_splitOn_iff (cs : List Char) : [] ∈ (cs.splitOn '/').tail ↔
    ['/'] <:+ cs ∨ ['/', '/'] <:+: cs := by
  induction cs with
  | nil => simp
  | cons c cs ih =>
    rw [List.splitOn_cons_eq_if_modifyHead, List.suffix_cons_iff, List.infix_cons_iff,
      List.cons_prefix_cons]
    by_cases hc : c = '/'
    · subst hc
      have hall : ['/'] = '/' :: cs ↔ cs = [] := by simp [eq_comm]
      rw [if_pos (beq_self_eq_true '/'), List.tail_cons, nil_mem_splitOn_iff, ih, hall]
      tauto
    · have hne : ¬(c == '/') = true := by simpa using hc
      rw [if_neg hne, List.tail_modifyHead, ih]
      simp [Ne.symm hc]

theorem plain_segments_iff (hne : text ≠ "") :
    PackagePath.Plain (segments text.toList) ↔ ¬Gapped text := by
  have hcs : text.toList ≠ [] := by simpa using hne
  have hgap : [] ∈ text.toList.splitOn '/' ↔ Gapped text := by
    rw [nil_mem_splitOn_iff, nil_mem_tail_splitOn_iff, or_iff_right hcs]
    rfl
  have hempty : "" ∈ segments text.toList ↔ [] ∈ text.toList.splitOn '/' := by
    simp [segments, String.ofList_eq_empty_iff]
  rw [← hgap, ← hempty]
  constructor
  · intro hplain hmem
    exact (hplain "" hmem).1 rfl
  · intro hmem s hs
    refine ⟨?_, noSlash_of_mem_segments hs⟩
    rintro rfl
    exact hmem hs

/-! ## Labels -/

theorem Readable.isPath (h : l.Readable) (hl : l.isFile = false) : IsPath l.packagePath := by
  cases l with
  | file pieces => cases hl
  | here name =>
    intro s hs
    cases hs
  | absolute workspace package name => exact h.2.1

/-- A label has a package that was checked, or it is a file and has the pieces of its text. -/
theorem path_of_parse (h : parse text = .ok l) :
    l.isFile = false ∧ IsPath l.packagePath ∨
      l.isFile = true ∧ text ≠ "" ∧ l.packagePath = segments text.toList := by
  obtain ⟨f, ⟨hvalid, rfl⟩, rfl⟩ := exists_spells_of_parse h
  cases hl : f.label.isFile with
  | false =>
    left
    exact ⟨rfl, (Form.readable_label hvalid).isPath hl⟩
  | true =>
    right
    obtain ⟨text, rfl⟩ := f.describes_label.isFile.mp hl
    exact ⟨rfl, hvalid.1, rfl⟩

theorem noSlash_packagePath (h : parse text = .ok l) : ∀ s ∈ l.packagePath, '/' ∉ s.toList := by
  intro s hs
  rcases path_of_parse h with ⟨-, hpath⟩ | ⟨-, -, hpieces⟩
  · exact (hpath s hs).noSlash
  · exact noSlash_of_mem_segments (hpieces ▸ hs)

theorem plain_packagePath_iff (h : parse text = .ok l) :
    l.packagePath.Plain ↔ ¬(l.isFile = true ∧ Gapped text) := by
  rcases path_of_parse h with ⟨hl, hpath⟩ | ⟨hl, hne, hpieces⟩
  · have hplain := hpath.plain
    simp [hl, hplain]
  · rw [hpieces, plain_segments_iff hne, hl]
    simp

/-- The spelling of a package path reads as the path just when there is no gap in it. -/
theorem read_package_iff (l : Label) :
    PackagePath.read l.package = l.packagePath ↔ l.packagePath.Plain :=
  PackagePath.read_joined_iff

theorem packagePath_of_empty (h : parse text = .ok l) (he : l.package = "") :
    l.packagePath = [] := by
  rcases path_of_parse h with ⟨-, hpath⟩ | ⟨-, hne, hpieces⟩
  · exact hpath.joined_eq_empty he
  · -- the path of a file is spelled as its text, which is not empty
    have hspelled : l.package = text := by
      rw [package, hpieces, joined_segments_toList]
    exact absurd (hspelled.symm.trans he) hne

theorem packagePath_injective (h : parse text = .ok l) (h' : parse text' = .ok l')
    (he : l.package = l'.package) : l.packagePath = l'.packagePath := by
  by_cases hempty : l.package = ""
  · have hempty' : l'.package = "" := he ▸ hempty
    rw [packagePath_of_empty h hempty, packagePath_of_empty h' hempty']
  · have hcut : ∀ {m : Label} {t : String}, parse t = .ok m → m.package ≠ "" →
        segments m.package.toList = m.packagePath := by
      intro m t hm hne
      refine segments_joined ?_ (noSlash_packagePath hm)
      intro hnil
      rw [package, hnil] at hne
      exact hne rfl
    have hne' : l'.package ≠ "" := he ▸ hempty
    rw [← hcut h hempty, ← hcut h' hne', he]

/-- Of the labels that are read, only those of files have gaps in their path, and a file has one
just when there is one in its text. Without a gap the spelling of the path reads as the path, and
with or without one, paths that are spelled alike are the same. -/
theorem parse_leaves_gaps_to_files :
    (∀ text l, parse text = .ok l →
      (∀ s ∈ l.packagePath, '/' ∉ s.toList) ∧
      (l.packagePath.Plain ↔ ¬(l.isFile = true ∧ Gapped text)) ∧
      (PackagePath.read l.package = l.packagePath ↔ l.packagePath.Plain)) ∧
    ∀ text text' l l', parse text = .ok l → parse text' = .ok l' →
      l.package = l'.package → l.packagePath = l'.packagePath := by
  constructor
  · intro text l h
    exact ⟨noSlash_packagePath h, plain_packagePath_iff h, read_package_iff l⟩
  · intro text text' l l' h h' he
    exact packagePath_injective h h' he

/-- Two slashes in a row leave an empty segment in the path of a file. -/
theorem gap_between_slashes :
    ¬ ∀ text l, parse text = .ok l → (∀ s ∈ l.packagePath, s ≠ "" ∧ '/' ∉ s.toList) ∧
      PackagePath.read l.package = l.packagePath := by
  intro hall
  have hparse : parse "a//b" = .ok (.file ["a", "", "b"]) := by decide +kernel
  obtain ⟨hplain, -⟩ := hall _ _ hparse
  have hgap : "" ∈ (Label.file ["a", "", "b"]).packagePath := by decide
  exact (hplain "" hgap).1 rfl

end Label

end BuildAtlas
