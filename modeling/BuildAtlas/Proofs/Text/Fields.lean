import BuildAtlas.Proofs.Text.Split
import BuildAtlas.Text.Blank

/-! # Lines laid out in fields

A line is laid out as fields when they stand in it in their order, with blanks around them and at
least one between two. Every line is laid out in one way, and cutting it at blanks gives the fields
of that layout. So what is read off the fields of a line is the same for all layouts of them.
-/
namespace BuildAtlas.Text

def Unbroken (text : String) : Prop := ∀ c ∈ text.toList, isBlank c = false

structure IsField (field : String) : Prop where
  ne_empty : field ≠ ""
  unbroken : Unbroken field

inductive LaidOut : List String → String → Prop
  | blanks {gap} : allBlank gap = true → LaidOut [] gap
  /-- What follows a field is nothing or starts with a blank. -/
  | field {gap field fields rest} : allBlank gap = true → IsField field →
      (∀ c ∈ rest.toList.head?, isBlank c = true) → LaidOut fields rest →
      LaidOut (field :: fields) (gap ++ field ++ rest)

variable {field line gap rest : String} {fields' : List String}

/-! ## Cutting a layout -/

section words
variable {isSep : Char → Bool} {c : Char} {cs word : List Char}

theorem words_cons_of_sep (hc : isSep c = true) : words isSep (c :: cs) = words isSep cs :=
  words_append_cons isSep c hc [] cs

theorem words_append_of_all (hgap : word.all isSep = true) :
    words isSep (word ++ cs) = words isSep cs := by
  induction word with
  | nil => rfl
  | cons c word ih =>
    rw [List.all_cons, Bool.and_eq_true] at hgap
    rw [List.cons_append, words_cons_of_sep hgap.1, ih hgap.2]

theorem words_of_noSep (hne : word ≠ []) (hword : ∀ c ∈ word, isSep c = false) :
    words isSep word = [word] := by
  rw [words, List.splitOnP_eq_singleton hword]
  simp [hne]

theorem words_word_append (hne : word ≠ []) (hword : ∀ c ∈ word, isSep c = false)
    (hcs : ∀ c ∈ cs.head?, isSep c = true) : words isSep (word ++ cs) = word :: words isSep cs := by
  cases cs with
  | nil => rw [List.append_nil, words_of_noSep hne hword]; rfl
  | cons c cs =>
    have hc : isSep c = true := hcs c rfl
    rw [words_append_cons isSep c hc, words_of_noSep hne hword, words_cons_of_sep hc]
    rfl

end words

theorem LaidOut.fields_eq (h : LaidOut fields' line) : fields line = fields' := by
  induction h with
  | blanks hgap => rw [fields, words_eq_nil hgap]; rfl
  | @field gap field fields' rest hgap hfield hrest _ ih =>
    have hne : field.toList ≠ [] := by simpa using hfield.ne_empty
    have hwords : words isBlank (gap ++ field ++ rest).toList =
        field.toList :: words isBlank rest.toList := by
      rw [String.toList_append, String.toList_append, List.append_assoc,
        words_append_of_all hgap, words_word_append hne hfield.unbroken hrest]
    rw [fields, hwords, List.map_cons, String.ofList_toList, ← ih]
    rfl

/-! ## Every line has a layout -/

theorem LaidOut.gap_append (h : LaidOut fields' rest) (hgap : allBlank gap = true) :
    LaidOut fields' (gap ++ rest) := by
  have hall : ∀ more : String, allBlank more = true → allBlank (gap ++ more) = true := by
    intro more hmore
    rw [allBlank, String.toList_append, List.all_append, Bool.and_eq_true]
    exact ⟨hgap, hmore⟩
  cases h with
  | blanks hrest => exact .blanks (hall _ hrest)
  | field hinner hfield hsep hrest =>
    rw [← String.append_assoc, ← String.append_assoc]
    exact .field (hall _ hinner) hfield hsep hrest

theorem LaidOut.field_append (hfield : IsField field)
    (hsep : ∀ c ∈ rest.toList.head?, isBlank c = true) (h : LaidOut fields' rest) :
    LaidOut (field :: fields') (field ++ rest) := by
  have hlaid : LaidOut (field :: fields') ("" ++ field ++ rest) := .field rfl hfield hsep h
  rwa [String.empty_append] at hlaid

theorem LaidOut.exists_char_append {c : Char} (h : LaidOut fields' rest) (hc : isBlank c = false) :
    ∃ more, LaidOut more (String.ofList [c] ++ rest) := by
  have hone : IsField (String.ofList [c]) := by
    refine ⟨by simp, fun d hd => ?_⟩
    obtain rfl : d = c := by simpa using hd
    exact hc
  have halone : (∀ d ∈ rest.toList.head?, isBlank d = true) →
      ∃ more, LaidOut more (String.ofList [c] ++ rest) :=
    fun hsep => ⟨_, .field_append hone hsep h⟩
  -- the character makes the first field longer, unless blanks keep it apart
  cases h with
  | blanks hrest =>
    exact halone fun d hd => List.all_eq_true.mp hrest d (List.mem_of_mem_head? hd)
  | @field gap field fields' rest hgap hfield hsep hrest =>
    by_cases hempty : gap = ""
    · subst hempty
      have hlonger : IsField (String.ofList [c] ++ field) := by
        refine ⟨by simp, fun d hd => ?_⟩
        rw [String.toList_append, List.mem_append] at hd
        exact hd.elim (hone.unbroken d) (hfield.unbroken d)
      rw [String.empty_append, ← String.append_assoc]
      exact ⟨_, .field_append hlonger hsep hrest⟩
    · refine halone fun d hd => ?_
      have hne : gap.toList ≠ [] := by simpa using hempty
      obtain ⟨first, more, hfirst⟩ := List.exists_cons_of_ne_nil hne
      rw [String.toList_append, String.toList_append, hfirst] at hd
      obtain rfl : first = d := by simpa using hd
      exact List.all_eq_true.mp hgap first (hfirst ▸ List.mem_cons_self)

theorem exists_laidOut (line : String) : ∃ fields', LaidOut fields' line := by
  obtain ⟨cs, rfl⟩ : ∃ cs, line = String.ofList cs := ⟨_, String.ofList_toList.symm⟩
  induction cs with
  | nil => exact ⟨_, .blanks rfl⟩
  | cons c cs ih =>
    obtain ⟨fields', h⟩ := ih
    have hcons : String.ofList (c :: cs) = String.ofList [c] ++ String.ofList cs :=
      String.toList_injective (by simp)
    rw [hcons]
    cases hc : isBlank c with
    | true => exact ⟨_, h.gap_append (by simpa [allBlank] using hc)⟩
    | false => exact h.exists_char_append hc

theorem fields_eq_iff : fields line = fields' ↔ LaidOut fields' line := by
  refine ⟨?_, LaidOut.fields_eq⟩
  rintro rfl
  obtain ⟨fields', h⟩ := exists_laidOut line
  rwa [h.fields_eq]

theorem LaidOut.isField (h : LaidOut fields' line) : ∀ field ∈ fields', IsField field := by
  induction h with
  | blanks => simp
  | field _ hfield _ _ ih => exact List.forall_mem_cons.mpr ⟨hfield, ih⟩

/-- The plainest layout has one space between two fields and none around them. -/
theorem laidOut_intercalate (h : ∀ field ∈ fields', IsField field) :
    LaidOut fields' (" ".intercalate fields') := by
  induction fields' with
  | nil => exact .blanks rfl
  | cons field fields' ih =>
    obtain ⟨hfield, hrest⟩ := List.forall_mem_cons.mp h
    cases fields' with
    | nil =>
      have hlaid : LaidOut [field] (field ++ "") := .field_append hfield (by simp) (.blanks rfl)
      rwa [String.append_empty] at hlaid
    | cons next fields' =>
      have hmore : LaidOut (next :: fields') (" " ++ " ".intercalate (next :: fields')) :=
        (ih hrest).gap_append rfl
      have hlaid := LaidOut.field_append hfield (by simp; rfl) hmore
      rwa [← String.append_assoc, ← String.intercalate_cons_cons] at hlaid

end BuildAtlas.Text
