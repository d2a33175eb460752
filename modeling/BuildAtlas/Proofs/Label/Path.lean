import BuildAtlas.Proofs.Label.Grammar

/-! # Spellings of package paths

Reading a path drops the slashes and keeps what stands between them, so a path that is written
out reads as itself again, with or without a slash at its end.
-/
namespace BuildAtlas

theorem joined_segments_toList (text : String) :
    PackagePath.joined (Label.segments text.toList) = text :=
  String.toList_injective (Label.joined_segments text.toList)

theorem Label.segments_ne_nil (cs : List Char) : segments cs ≠ [] := by simp [segments]

namespace PackagePath
variable {path : PackagePath} {text : String} {name : String} {c : Char}

/-- The segments that a path can be written with: there is something in each, and no slash. -/
def Plain (path : PackagePath) : Prop := ∀ s ∈ path, s ≠ "" ∧ '/' ∉ s.toList

theorem joined_cons (hne : path ≠ []) : joined (name :: path) = name ++ "/" ++ path.joined := by
  obtain ⟨s, rest, rfl⟩ := List.exists_cons_of_ne_nil hne
  exact String.intercalate_cons_cons

theorem joined_concat (hne : path ≠ []) :
    joined (path ++ [name]) = path.joined ++ "/" ++ name := by
  induction path with
  | nil => exact absurd rfl hne
  | cons s rest ih =>
    cases rest with
    | nil => rfl
    | cons t rest =>
      have hrest := ih (List.cons_ne_nil t rest)
      rw [List.cons_append, joined_cons (by simp), hrest, joined_cons (List.cons_ne_nil t rest)]
      simp only [String.append_assoc]

/-- What stands on the two sides of a slash is read apart. -/
theorem read_append_slash_append (before after : String) :
    read (before ++ "/" ++ after) = read before ++ read after := by
  have hwords := Text.words_append_cons (· == '/') '/' rfl before.toList after.toList
  rw [read, read, read, ← List.map_append, ← hwords, String.toList_append, String.toList_append]
  exact congrArg (fun cs => List.map String.ofList (Text.words _ cs)) (List.append_assoc _ ['/'] _)

theorem read_empty : read "" = [] := rfl

theorem read_slash (text : String) : read ("/" ++ text) = read text := by
  have hread := read_append_slash_append "" text
  rwa [String.empty_append, read_empty, List.nil_append] at hread

theorem read_append_slash (text : String) : read (text ++ "/") = read text := by
  have hread := read_append_slash_append text ""
  rwa [String.append_empty, read_empty, List.append_nil] at hread

/-- Reading a path is cutting it at every slash and leaving out the empty pieces. -/
theorem read_eq_filter (text : String) :
    read text = (Label.segments text.toList).filter (· ≠ "") := by
  rw [Label.segments, List.filter_map, read, Text.words]
  congr 1
  refine List.filter_congr fun w _ => ?_
  cases w <;> simp [String.ofList_eq_empty_iff]

theorem plain_read (text : String) : (read text).Plain := by
  intro s hs
  rw [read_eq_filter, List.mem_filter] at hs
  have hne : s ≠ "" := by simpa using hs.2
  exact ⟨hne, Label.noSlash_of_mem_segments hs.1⟩

/-- Reading a path drops nothing but slashes. -/
theorem exists_mem_read_iff (hc : c ≠ '/') : (∃ s ∈ read text, c ∈ s.toList) ↔ c ∈ text.toList := by
  have hsegments : c ∈ text.toList ↔ ∃ s ∈ Label.segments text.toList, c ∈ s.toList := by
    rw [← Label.mem_joined_iff hc, joined_segments_toList]
  rw [hsegments, read_eq_filter]
  constructor
  · rintro ⟨s, hs, hmem⟩
    exact ⟨s, (List.mem_filter.mp hs).1, hmem⟩
  · rintro ⟨s, hs, hmem⟩
    have hne : s ≠ "" := by
      rintro rfl
      cases hmem
    exact ⟨s, List.mem_filter.mpr ⟨hs, by simpa using hne⟩, hmem⟩

theorem isPath_read_iff : Label.IsPath (read text) ↔ ':' ∉ text.toList := by
  rw [← exists_mem_read_iff (c := ':') (by decide)]
  constructor
  · rintro hpath ⟨s, hs, hcolon⟩
    exact (hpath s hs).noColon hcolon
  · intro hnone s hs
    obtain ⟨hne, hslash⟩ := plain_read text s hs
    exact ⟨hne, hslash, fun hcolon => hnone ⟨s, hs, hcolon⟩⟩

theorem Plain.read_joined (h : path.Plain) : read path.joined = path := by
  by_cases hne : path = []
  · subst hne
    rfl
  · rw [read_eq_filter, Label.segments_joined hne fun s hs => (h s hs).2]
    exact List.filter_eq_self.mpr fun s hs => by simpa using (h s hs).1

theorem read_joined_iff : read path.joined = path ↔ path.Plain := by
  constructor
  · intro hread
    have hplain := plain_read path.joined
    rwa [hread] at hplain
  · exact Plain.read_joined

theorem read_of_plain (h : Plain [name]) : read name = [name] := by
  have hread := h.read_joined
  rwa [joined, String.intercalate_singleton] at hread

theorem render_eq_slashes (path : PackagePath) : path.render = "/" ++ ("/" ++ path.joined) := by
  rw [render, ← String.append_assoc]
  rfl

/-- The slashes in front of the absolute spelling are read over. -/
theorem read_render_iff : read path.render = path ↔ path.Plain := by
  rw [render_eq_slashes, read_slash, read_slash]
  exact read_joined_iff

theorem Plain.read_render (h : path.Plain) : read path.render = path := read_render_iff.mpr h

end PackagePath

theorem Label.IsPath.plain {path : PackagePath} (h : IsPath path) : path.Plain :=
  fun s hs => ⟨(h s hs).ne_empty, (h s hs).noSlash⟩

end BuildAtlas
