import BuildAtlas.Text.Split
import Mathlib.Data.List.TakeDrop
import Mathlib.Data.List.TakeWhile

/-! # Cutting text at a character

A cut is the one place where the separator occurs for the first time. The pieces between
separators are free of them, so a text and its pieces determine each other. The words of a text are
those of what stands on the two sides of a separator.
-/
namespace BuildAtlas.Text
variable {sep : Char} {cs before after w : List Char}

theorem cutAt_append (h : sep ∉ before) :
    cutAt sep (before ++ sep :: after) = some (before, after) := by
  have hb : ∀ c ∈ before, (c != sep) = true := fun c hc => by
    simpa using ne_of_mem_of_not_mem hc h
  simp [cutAt, List.span_eq_takeWhile_dropWhile, List.takeWhile_append_of_pos hb,
    List.dropWhile_append_of_pos hb]

theorem cutAt_eq_none_iff : cutAt sep cs = none ↔ sep ∉ cs := by
  constructor
  · intro h hsep
    obtain ⟨before, after, rfl, hb⟩ := List.eq_append_cons_of_mem hsep
    simp [cutAt_append hb] at h
  · intro h
    have hall : ∀ c ∈ cs, (c != sep) = true := fun c hc => by
      simpa using ne_of_mem_of_not_mem hc h
    simp [cutAt, List.span_eq_takeWhile_dropWhile, List.dropWhile_eq_nil_iff.mpr hall]

theorem cutAt_eq_some_iff :
    cutAt sep cs = some (before, after) ↔ sep ∉ before ∧ cs = before ++ sep :: after := by
  constructor
  · intro h
    have hsep : sep ∈ cs := by
      by_contra hn
      rw [cutAt_eq_none_iff.mpr hn] at h
      cases h
    obtain ⟨b, a, rfl, hb⟩ := List.eq_append_cons_of_mem hsep
    rw [cutAt_append hb] at h
    cases h
    exact ⟨hb, rfl⟩
  · rintro ⟨h, rfl⟩
    exact cutAt_append h

theorem not_mem_of_mem_splitOn (h : w ∈ cs.splitOn sep) : sep ∉ w := by
  induction cs generalizing w with
  | nil =>
    obtain rfl : w = [] := by simpa using h
    simp
  | cons c cs ih =>
    rw [List.splitOn_cons_eq_if_modifyHead] at h
    split at h
    · rcases List.mem_cons.mp h with rfl | h
      · simp
      · exact ih h
    · rename_i hc
      obtain ⟨first, rest, hs⟩ := List.exists_cons_of_ne_nil (List.splitOn_ne_nil sep cs)
      rw [hs, List.modifyHead_cons] at h
      rcases List.mem_cons.mp h with rfl | h
      · have hf : sep ∉ first := ih (hs ▸ List.mem_cons_self)
        have hne : sep ≠ c := fun e => hc (by simp [e])
        simp [hne, hf]
      · exact ih (hs ▸ List.mem_cons_of_mem _ h)

theorem words_append_cons (isSep : Char → Bool) (sep : Char) (hsep : isSep sep = true)
    (before after : List Char) :
    words isSep (before ++ sep :: after) = words isSep before ++ words isSep after := by
  rw [words, List.splitOnP_append_cons before after hsep, List.filter_append]
  rfl

/-- Between separators alone there are no words. -/
theorem words_eq_nil {isSep : Char → Bool} (h : cs.all isSep = true) : words isSep cs = [] := by
  rw [words, List.filter_eq_nil_iff]
  induction cs with
  | nil => simp
  | cons c cs ih =>
    rw [List.all_cons, Bool.and_eq_true] at h
    rw [List.splitOnP_cons_eq_if_modifyHead, if_pos h.1]
    simpa using ih h.2

end BuildAtlas.Text
