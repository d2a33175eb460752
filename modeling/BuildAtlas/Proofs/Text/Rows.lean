import BuildAtlas.Proofs.Text.Fields
import BuildAtlas.Text.Lines
import Mathlib.Data.List.Forall2
import Mathlib.Logic.Relation

/-! # Rows of fields

A text has a row for each of its lines that is not blank, and a row has the fields of its line. What
else there is to a text is its layout: how lines end, whether the last one does, where blank lines
stand, and the blanks around and between fields. Each change to the layout leaves the rows as they
are, since a blank at an end of a line or next to another one parts no fields.
-/
namespace BuildAtlas.Text

def rows (text : String) : List (List String) := ((lines text).map fields).filter (· ≠ [])

def AtLineStart (before : String) : Prop := before = "" ∨ ∃ above, before = above ++ "\n"

def AtLineEnd (after : String) : Prop := after = "" ∨ ∃ below, after = "\n" ++ below

/-- Blanks inside of a line, tabs and spaces among them. -/
structure IsGap (gap : String) : Prop where
  blank : allBlank gap = true
  inLine : '\n' ∉ gap.toList

/-- One change to the layout of a text. -/
inductive Reformats : String → String → Prop
  | lineEnd (before after) : Reformats (before ++ "\n" ++ after) (before ++ "\r\n" ++ after)
  | lastEnd (text) : Reformats text (text ++ "\n")
  | blankLine {before gap} (after) : AtLineStart before → IsGap gap →
      Reformats (before ++ after) (before ++ (gap ++ "\n") ++ after)
  | leading {before gap} (after) : AtLineStart before → IsGap gap →
      Reformats (before ++ after) (before ++ gap ++ after)
  | trailing {gap after} (before) : AtLineEnd after → IsGap gap →
      Reformats (before ++ after) (before ++ gap ++ after)
  | between {gap gap'} (before after) : IsGap gap → IsGap gap' → gap ≠ "" → gap' ≠ "" →
      Reformats (before ++ gap ++ after) (before ++ gap' ++ after)

/-- Any number of changes to the layout, each made or taken back. -/
abbrev Relaid : String → String → Prop := Relation.EqvGen Reformats

/-! ## Blanks -/

section blanks
variable {gap line : List Char}

theorem words_append_blank (hgap : gap.all isBlank = true) :
    words isBlank (line ++ gap) = words isBlank line := by
  cases gap with
  | nil => rw [List.append_nil]
  | cons c gap =>
    rw [List.all_cons, Bool.and_eq_true] at hgap
    rw [words_append_cons isBlank c hgap.1, words_eq_nil hgap.2, List.append_nil]

theorem words_parted (hgap : gap.all isBlank = true) (hne : gap ≠ []) (rest : List Char) :
    words isBlank (line ++ (gap ++ rest)) = words isBlank line ++ words isBlank rest := by
  obtain ⟨c, gap, rfl⟩ := List.exists_cons_of_ne_nil hne
  rw [List.all_cons, Bool.and_eq_true] at hgap
  rw [List.cons_append, words_append_cons isBlank c hgap.1, words_append_of_all hgap.2]

theorem words_dropReturn (line : List Char) :
    words isBlank (dropReturn line) = words isBlank line := by
  unfold dropReturn
  split
  · rename_i hlast
    obtain ⟨front, rfl⟩ := List.getLast?_eq_some_iff.mp hlast
    rw [List.dropLast_concat, words_append_blank rfl]
  · rfl

end blanks

/-! ## Rows of characters -/

theorem splitOn_append_newline (before after : List Char) :
    (before ++ '\n' :: after).splitOn '\n' = before.splitOn '\n' ++ after.splitOn '\n' :=
  List.splitOnP_append_cons before after (beq_self_eq_true '\n')

def charRows (cs : List Char) : List (List (List Char)) :=
  ((cs.splitOn '\n').map (words isBlank)).filter (· ≠ [])

section charRows
variable {cs before after : List Char}

/-- Line ends and an empty last stretch make no rows. -/
theorem filter_words_linesOfStretches (stretches : List (List Char)) :
    ((linesOfStretches stretches).map (words isBlank)).filter (· ≠ []) =
      (stretches.map (words isBlank)).filter (· ≠ []) := by
  rcases List.eq_nil_or_concat stretches with rfl | ⟨front, last, rfl⟩
  · rfl
  · have hfront : (front.map dropReturn).map (words isBlank) = front.map (words isBlank) := by
      rw [List.map_map]
      exact List.map_congr_left fun line _ => words_dropReturn line
    have hlast : (([last].filter fun w => !w.isEmpty).map (words isBlank)).filter (· ≠ []) =
        ([last].map (words isBlank)).filter (· ≠ []) := by
      cases last with
      | nil => rfl
      | cons c last => rfl
    rw [linesOfStretches, List.concat_eq_append, List.dropLast_concat, List.getLast?_concat]
    rw [Option.toList_some, List.map_append, List.map_append, List.filter_append, hfront, hlast,
      List.filter_append]

theorem rows_eq_charRows (text : String) :
    rows text = (charRows text.toList).map (List.map String.ofList) := by
  have hfields : (lines text).map fields =
      ((linesOfStretches (text.toList.splitOn '\n')).map (words isBlank)).map
        (List.map String.ofList) := by
    rw [lines, List.map_map, List.map_map]
    refine List.map_congr_left fun line _ => ?_
    rw [Function.comp_apply, Function.comp_apply, fields, String.toList_ofList]
  rw [rows, hfields, charRows, ← filter_words_linesOfStretches, List.filter_map]
  congr 1
  refine List.filter_congr fun row _ => ?_
  cases row <;> simp

theorem charRows_append_newline (before after : List Char) :
    charRows (before ++ '\n' :: after) = charRows before ++ charRows after := by
  rw [charRows, splitOn_append_newline, List.map_append, List.filter_append]
  rfl

end charRows

/-! ## Lines that may stand for each other -/

/-- Whatever stands in front, the words are the same. -/
def Interchangeable (line line' : List Char) : Prop :=
  ∀ front, words isBlank (front ++ line) = words isBlank (front ++ line')

/-- Texts with as many lines, in which those at the same place may stand for each other. -/
abbrev LinesAlike (cs cs' : List Char) : Prop :=
  List.Forall₂ Interchangeable (cs.splitOn '\n') (cs'.splitOn '\n')

section alike
variable {cs cs' gap gap' line line' : List Char}

theorem interchangeable_blank (hgap : gap.all isBlank = true) : Interchangeable [] gap := by
  intro front
  rw [words_append_blank hgap, List.append_nil]

theorem interchangeable_gaps (hgap : gap.all isBlank = true) (hgap' : gap'.all isBlank = true)
    (hne : gap ≠ []) (hne' : gap' ≠ []) : Interchangeable (gap ++ line) (gap' ++ line) := by
  intro front
  rw [words_parted hgap hne, words_parted hgap' hne']

theorem linesAlike_refl (cs : List Char) : LinesAlike cs cs :=
  List.forall₂_same.mpr fun _ _ _ => rfl

theorem LinesAlike.cons (h : LinesAlike cs cs') (c : Char) : LinesAlike (c :: cs) (c :: cs') := by
  unfold LinesAlike at h ⊢
  rw [List.splitOn_cons_eq_if_modifyHead, List.splitOn_cons_eq_if_modifyHead]
  split
  · exact .cons (fun _ => rfl) h
  · obtain ⟨first, rest, hsplit⟩ := List.exists_cons_of_ne_nil (List.splitOn_ne_nil '\n' cs)
    obtain ⟨first', rest', hsplit'⟩ := List.exists_cons_of_ne_nil (List.splitOn_ne_nil '\n' cs')
    rw [hsplit, hsplit'] at h ⊢
    obtain ⟨hfirst, hrest⟩ := List.forall₂_cons.mp h
    refine .cons (fun front => ?_) hrest
    have hword := hfirst (front ++ [c])
    simpa using hword

theorem LinesAlike.append (h : LinesAlike cs cs') (before : List Char) :
    LinesAlike (before ++ cs) (before ++ cs') := by
  induction before with
  | nil => exact h
  | cons c before ih => exact ih.cons c

theorem LinesAlike.charRows_eq (h : LinesAlike cs cs') : charRows cs = charRows cs' := by
  have hwords : List.Forall₂ (· = ·) ((cs.splitOn '\n').map (words isBlank))
      ((cs'.splitOn '\n').map (words isBlank)) := by
    rw [List.forall₂_map_left_iff, List.forall₂_map_right_iff]
    exact h.imp fun line line' hline => hline []
  rw [List.forall₂_eq_eq_eq] at hwords
  rw [charRows, charRows, hwords]

theorem head?_splitOn_newline (cs : List Char) : (('\n' :: cs).splitOn '\n').head? = some [] := by
  rw [List.splitOn_cons_eq_if_modifyHead, if_pos (beq_self_eq_true '\n'), List.head?_cons]

theorem splitOn_append_of_not_mem (hline : '\n' ∉ line) (cs : List Char) :
    (line ++ cs).splitOn '\n' = (cs.splitOn '\n').modifyHead (line ++ ·) := by
  induction line with
  | nil =>
    obtain ⟨first, rest, hsplit⟩ := List.exists_cons_of_ne_nil (List.splitOn_ne_nil '\n' cs)
    rw [List.nil_append, hsplit]
    rfl
  | cons c line ih =>
    simp only [List.mem_cons, not_or] at hline
    have hc : ¬(c == '\n') = true := by simpa using Ne.symm hline.1
    rw [List.cons_append, List.splitOn_cons_eq_if_modifyHead, if_neg hc, ih hline.2,
      List.modifyHead_modifyHead]
    rfl

/-- Texts that go on alike behind what may stand for each other in front of the first line end. -/
theorem linesAlike_append_left (hline : '\n' ∉ line) (hline' : '\n' ∉ line')
    (hfirst : ∀ first ∈ (cs.splitOn '\n').head?, Interchangeable (line ++ first) (line' ++ first)) :
    LinesAlike (line ++ cs) (line' ++ cs) := by
  obtain ⟨first, rest, hsplit⟩ := List.exists_cons_of_ne_nil (List.splitOn_ne_nil '\n' cs)
  have hall := linesAlike_refl cs
  unfold LinesAlike at hall ⊢
  rw [splitOn_append_of_not_mem hline, splitOn_append_of_not_mem hline']
  rw [hsplit] at hfirst hall ⊢
  exact .cons (hfirst first rfl) (List.forall₂_cons.mp hall).2

end alike

/-! ## Changes to the layout -/

section changes
variable {a b before after gap : String}

theorem rows_congr (h : charRows a.toList = charRows b.toList) : rows a = rows b := by
  rw [rows_eq_charRows, rows_eq_charRows, h]

theorem AtLineStart.charRows_append (h : AtLineStart before) (cs : List Char) :
    charRows (before.toList ++ cs) = charRows before.toList ++ charRows cs := by
  rcases h with rfl | ⟨above, rfl⟩
  · rfl
  · have habove : (above ++ "\n").toList = above.toList ++ ['\n'] := by simp
    have hnone : charRows [] = [] := rfl
    rw [habove, List.append_assoc, List.singleton_append, charRows_append_newline,
      charRows_append_newline, hnone, List.append_nil]

theorem AtLineEnd.head?_splitOn (h : AtLineEnd after) :
    (after.toList.splitOn '\n').head? = some [] := by
  rcases h with rfl | ⟨below, rfl⟩
  · rfl
  · rw [String.toList_append]
    exact head?_splitOn_newline below.toList

theorem IsGap.charRows_append (h : IsGap gap) (cs : List Char) :
    charRows (gap.toList ++ cs) = charRows cs := by
  obtain ⟨first, rest, hsplit⟩ := List.exists_cons_of_ne_nil (List.splitOn_ne_nil '\n' cs)
  have hfirst : words isBlank (gap.toList ++ first) = words isBlank first :=
    words_append_of_all h.blank
  rw [charRows, charRows, splitOn_append_of_not_mem h.inLine, hsplit, List.modifyHead_cons,
    List.map_cons, List.map_cons, hfirst]

theorem Reformats.rows_eq (h : Reformats a b) : rows a = rows b := by
  apply rows_congr
  cases h with
  | lineEnd before after =>
    have halike : LinesAlike ([] ++ '\n' :: after.toList) (['\r'] ++ '\n' :: after.toList) := by
      refine linesAlike_append_left (by simp) (by simp) fun first hfirst => ?_
      rw [head?_splitOn_newline] at hfirst
      obtain rfl : [] = first := Option.some.inj hfirst
      exact interchangeable_blank rfl
    have hrows := (halike.append before.toList).charRows_eq
    simpa using hrows
  | lastEnd =>
    have hnone : charRows [] = [] := rfl
    have hrows := charRows_append_newline a.toList []
    rw [hnone, List.append_nil] at hrows
    rw [String.toList_append]
    exact hrows.symm
  | @blankLine before gap after hbefore hgap =>
    simp only [String.toList_append, List.append_assoc]
    have hline : charRows (gap.toList ++ ("\n".toList ++ after.toList)) = charRows after.toList := by
      rw [hgap.charRows_append]
      exact charRows_append_newline [] after.toList
    rw [hbefore.charRows_append, hbefore.charRows_append, hline]
  | @leading before gap after hbefore hgap =>
    simp only [String.toList_append, List.append_assoc]
    rw [hbefore.charRows_append, hbefore.charRows_append, hgap.charRows_append]
  | @trailing gap after before hafter hgap =>
    have halike : LinesAlike ([] ++ after.toList) (gap.toList ++ after.toList) := by
      refine linesAlike_append_left (by simp) hgap.inLine fun first hfirst => ?_
      rw [hafter.head?_splitOn] at hfirst
      obtain rfl : [] = first := Option.some.inj hfirst
      rw [List.append_nil, List.append_nil]
      exact interchangeable_blank hgap.blank
    have hrows := (halike.append before.toList).charRows_eq
    simpa using hrows
  | @between gap gap' before after hgap hgap' hne hne' =>
    have halike : LinesAlike (gap.toList ++ after.toList) (gap'.toList ++ after.toList) := by
      refine linesAlike_append_left hgap.inLine hgap'.inLine fun first _ => ?_
      exact interchangeable_gaps hgap.blank hgap'.blank (by simpa using hne) (by simpa using hne')
    have hrows := (halike.append before.toList).charRows_eq
    simpa using hrows

theorem Relaid.rows_eq (h : Relaid a b) : rows a = rows b := by
  induction h with
  | rel a b hab => exact hab.rows_eq
  | refl a => rfl
  | symm a b _ ih => exact ih.symm
  | trans a b c _ _ ih ih' => exact ih.trans ih'

end changes

end BuildAtlas.Text
