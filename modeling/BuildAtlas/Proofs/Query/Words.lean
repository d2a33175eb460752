import BuildAtlas.Query.Command
import Mathlib.Data.List.Forall2
import Mathlib.Logic.Function.Basic

/-! # The words of a command line

A shell takes a line character by character. Between single quotes every character stands for
itself, and so does the one after a backslash outside of quotes; all others are bare and keep
what meaning they have. Bare blanks part the words. The line of a query comes to the five words
that were meant, whatever the settings hold, and nothing bare in it means anything but itself.
-/
namespace BuildAtlas

namespace Quoting

/-! ## Words of a line -/

inductive Mode where
  | outside
  | quoted
  | escaped
  deriving DecidableEq, Repr

/-- A character as it is taken. The marks are the quotes and the backslashes, of which nothing is
left in a word; but they make a word, if only an empty one. -/
inductive Piece where
  | bare (c : Char)
  | literal (c : Char)
  | mark
  deriving DecidableEq, Repr

def Mode.take : Mode → Char → Mode × Piece
  | .outside, c =>
    if c = '\'' then (.quoted, .mark)
    else if c = '\\' then (.escaped, .mark)
    else (.outside, .bare c)
  | .quoted, c => if c = '\'' then (.outside, .mark) else (.quoted, .literal c)
  | .escaped, c => (.outside, .literal c)

/-- The pieces of a text, and the mode after it. -/
def scan : Mode → List Char → Mode × List Piece
  | m, [] => (m, [])
  | m, c :: cs => ((scan (m.take c).1 cs).1, (m.take c).2 :: (scan (m.take c).1 cs).2)

def Piece.char? : Piece → Option Char
  | bare c | literal c => some c
  | mark => none

def Piece.parts : Piece → Bool
  | bare c => c = ' ' || c = '\t' || c = '\n'
  | _ => false

def text (ps : List Piece) : List Char := ps.filterMap Piece.char?

/-- What is left of the stretches between the bare blanks. -/
def words (ps : List Piece) : List (List Char) :=
  ((ps.splitOnP Piece.parts).filter fun w => !w.isEmpty).map text

/-- An ASCII letter or digit, or punctuation without meaning to any shell. -/
def Harmless (c : Char) : Prop :=
  'a' ≤ c ∧ c ≤ 'z' ∨ 'A' ≤ c ∧ c ≤ 'Z' ∨ '0' ≤ c ∧ c ≤ '9' ∨
    c ∈ ['_', '-', '+', '=', '/', ':', '.', ',', '@', '%']

instance : DecidablePred Harmless := fun c => by
  unfold Harmless
  infer_instance

/-- What expands, redirects, begins a comment, or ends a command, where it is bare. -/
def active : List Char :=
  ['$', '`', '~', '*', '?', '[', '!', '{', '<', '>', '#', ';', '&', '|', '(', ')', '\n', '"']

/-- The line is complete and comes to the words; its bare characters are the blanks between
them and harmless ones. -/
structure Passes (line : String) (ws : List String) : Prop where
  complete : (scan .outside line.toList).1 = .outside
  words : words (scan .outside line.toList).2 = ws.map String.toList
  blanks : (scan .outside line.toList).2.count (.bare ' ') + 1 = ws.length
  bare : ∀ c, .bare c ∈ (scan .outside line.toList).2 → c = ' ' ∨ Harmless c
  inert : ∀ c ∈ active, .bare c ∉ (scan .outside line.toList).2

theorem scan_append (m : Mode) (cs ds : List Char) : scan m (cs ++ ds) =
    ((scan (scan m cs).1 ds).1, (scan m cs).2 ++ (scan (scan m cs).1 ds).2) := by
  induction cs generalizing m with
  | nil => rfl
  | cons c cs ih => simp only [List.cons_append, scan, ih]

theorem harmless_of_isPlain {c : Char} (h : Shell.isPlain c = true) : Harmless c := by
  rcases (Bool.or_eq_true _ _).mp h with halnum | hmark
  · rcases (Bool.or_eq_true _ _).mp halnum with halpha | hdigit
    · rcases (Bool.or_eq_true _ _).mp halpha with hupper | hlower
      · exact Or.inr (Or.inl (of_decide_eq_true hupper))
      · have hrange := (Bool.and_eq_true _ _).mp hlower
        exact Or.inl (hrange.imp of_decide_eq_true of_decide_eq_true)
    · have hrange := (Bool.and_eq_true _ _).mp hdigit
      exact Or.inr (Or.inr (Or.inl (hrange.imp of_decide_eq_true of_decide_eq_true)))
  · exact Or.inr (Or.inr (Or.inr (by simpa using hmark)))

theorem not_harmless_of_active {c : Char} (h : c ∈ active) : c ≠ ' ' ∧ ¬ Harmless c := by
  have hall : active.all (fun c => c ≠ ' ' ∧ ¬ Harmless c) = true := by decide
  exact of_decide_eq_true (List.all_eq_true.mp hall c h)

/-- A harmless character is taken as it stands and parts no words. -/
theorem Harmless.take_eq {c : Char} (h : Harmless c) :
    Mode.outside.take c = (.outside, .bare c) ∧ (Piece.bare c).parts = false := by
  have hquote : c ≠ '\'' := by
    rintro rfl
    exact absurd h (by decide)
  have hescape : c ≠ '\\' := by
    rintro rfl
    exact absurd h (by decide)
  refine ⟨by simp [Mode.take, hquote, hescape], ?_⟩
  by_contra hparts
  simp only [Piece.parts, Bool.not_eq_false, Bool.or_eq_true, decide_eq_true_eq] at hparts
  rcases hparts with (rfl | rfl) | rfl
  · exact absurd h (by decide)
  · exact absurd h (by decide)
  · exact absurd h (by decide)

/-! ## Spellings of one word -/

/-- A text that a shell takes whole, and for one word. -/
def Spells (cs word : List Char) : Prop :=
  ∃ ps, scan .outside cs = (.outside, ps) ∧ ps ≠ [] ∧ text ps = word ∧
    ∀ c, .bare c ∈ ps → Harmless c

theorem text_append (ps qs : List Piece) : text (ps ++ qs) = text ps ++ text qs :=
  List.filterMap_append

theorem Spells.unique {cs word word' : List Char} (h : Spells cs word) (h' : Spells cs word') :
    word = word' := by
  obtain ⟨ps, hscan, _, rfl, _⟩ := h
  obtain ⟨ps', hscan', _, rfl, _⟩ := h'
  rw [hscan] at hscan'
  cases hscan'
  rfl

theorem scan_harmless {cs : List Char} (h : ∀ c ∈ cs, Harmless c) :
    scan .outside cs = (.outside, cs.map .bare) := by
  induction cs with
  | nil => rfl
  | cons c cs ih =>
    have htake := (h c List.mem_cons_self).take_eq.1
    rw [scan, htake, ih fun d hd => h d (List.mem_cons_of_mem c hd)]
    rfl

theorem text_map_bare (cs : List Char) : text (cs.map .bare) = cs := by
  rw [text, List.filterMap_map]
  exact List.filterMap_some

theorem spells_harmless {cs : List Char} (hne : cs ≠ []) (h : ∀ c ∈ cs, Harmless c) :
    Spells cs cs := by
  refine ⟨cs.map .bare, scan_harmless h, by simpa using hne, text_map_bare cs, ?_⟩
  intro c hc
  obtain ⟨d, hd, he⟩ := List.mem_map.mp hc
  cases he
  exact h c hd

/-- Inside of quotes everything stands for itself, and a quote is left, escaped and entered
again. -/
theorem scan_quoted (cs : List Char) : ∃ ps,
    scan .quoted (cs.flatMap fun c => if c = '\'' then ['\'', '\\', '\'', '\''] else [c]) =
      (.quoted, ps) ∧ text ps = cs ∧ ∀ c, .bare c ∉ ps := by
  induction cs with
  | nil => exact ⟨[], rfl, rfl, by simp⟩
  | cons c cs ih =>
    obtain ⟨ps, hscan, htext, hbare⟩ := ih
    rw [List.flatMap_cons, scan_append]
    by_cases hc : c = '\''
    · subst hc
      refine ⟨[.mark, .mark, .literal '\'', .mark] ++ ps, ?_, ?_, by simpa using hbare⟩
      · rw [if_pos rfl]
        exact congrArg (fun r => (r.1, [.mark, .mark, .literal '\'', .mark] ++ r.2)) hscan
      · exact congrArg ('\'' :: ·) htext
    · have htake : scan .quoted [c] = (.quoted, [.literal c]) := by simp [scan, Mode.take, hc]
      refine ⟨.literal c :: ps, ?_, ?_, by simpa using hbare⟩
      · rw [if_neg hc, htake, hscan]
        rfl
      · exact congrArg (c :: ·) htext

theorem spells_quotePosix (cs : List Char) : Spells (Shell.quotePosix cs) cs := by
  obtain ⟨ps, hscan, htext, hbare⟩ := scan_quoted cs
  have hmarks : text (.mark :: ps ++ [.mark]) = text ps ++ [] := text_append (.mark :: ps) [.mark]
  refine ⟨.mark :: ps ++ [.mark], ?_, by simp, by rw [hmarks, htext, List.append_nil], ?_⟩
  · rw [Shell.quotePosix, List.append_assoc, scan_append, scan_append]
    simp [scan, Mode.take, hscan]
  · intro c hc
    simp only [List.cons_append, List.mem_cons, List.mem_append, reduceCtorEq, false_or,
      List.not_mem_nil, or_false] at hc
    exact absurd hc (hbare c)

theorem spells_quoteChars (cs : List Char) : Spells (Shell.quoteChars .posix cs) cs := by
  by_cases h : cs ≠ [] ∧ cs.all Shell.isPlain
  · rw [Shell.quoteChars, if_pos h]
    exact spells_harmless h.1 fun c hc => harmless_of_isPlain (List.all_eq_true.mp h.2 c hc)
  · rw [Shell.quoteChars, if_neg h]
    exact spells_quotePosix cs

/-! ## Several words -/

section words
variable {ps : List Piece} (hne : ps ≠ []) (h : ∀ c, .bare c ∈ ps → Harmless c)
include h

theorem parts_eq_false : ∀ p ∈ ps, p.parts = false := by
  intro p hp
  cases p with
  | bare c => exact (h c hp).take_eq.2
  | literal c => rfl
  | mark => rfl

theorem count_blank : ps.count (.bare ' ') = 0 := by
  rw [List.count_eq_zero]
  intro hblank
  exact absurd (h ' ' hblank) (by decide)

include hne

theorem words_singleton : words ps = [text ps] := by
  rw [words, List.splitOnP_eq_singleton (parts_eq_false h)]
  simp [hne]

theorem words_append_blank (qs : List Piece) :
    words (ps ++ .bare ' ' :: qs) = text ps :: words qs := by
  have hparts : (Piece.bare ' ').parts = true := rfl
  rw [words, List.splitOnP_append_cons ps qs hparts,
    List.splitOnP_eq_singleton (parts_eq_false h)]
  simp [hne, words]

end words

/-- Spellings with a blank between each and the next are taken for the words that they spell. -/
theorem scan_spellings {spellings ws : List (List Char)} (h : List.Forall₂ Spells spellings ws)
    (hne : spellings ≠ []) : ∃ ps,
    scan .outside ([' '].intercalate spellings) = (.outside, ps) ∧ words ps = ws ∧
      ps.count (.bare ' ') + 1 = ws.length ∧ ∀ c, .bare c ∈ ps → c = ' ' ∨ Harmless c := by
  induction h with
  | nil => exact absurd rfl hne
  | @cons cs word spellings ws hcs hrest ih =>
    obtain ⟨ps, hscan, hps, rfl, hbare⟩ := hcs
    cases spellings with
    | nil =>
      cases hrest
      refine ⟨ps, by rw [List.intercalate_singleton, hscan], words_singleton hps hbare, ?_,
        fun c hc => Or.inr (hbare c hc)⟩
      rw [count_blank hbare]
      rfl
    | cons next spellings =>
      obtain ⟨qs, hscan', hwords, hcount, hbare'⟩ := ih (List.cons_ne_nil _ _)
      refine ⟨ps ++ .bare ' ' :: qs, ?_, ?_, ?_, ?_⟩
      · rw [List.intercalate_cons_cons, scan_append, scan_append, hscan]
        simp [scan, Mode.take, hscan']
      · rw [words_append_blank hps hbare, hwords]
      · rw [List.count_append, count_blank hbare, List.count_cons_self, List.length_cons]
        omega
      · intro c hc
        rcases List.mem_append.mp hc with hc | hc
        · exact Or.inr (hbare c hc)
        · rcases List.mem_cons.mp hc with hc | hc
          · cases hc
            exact Or.inl rfl
          · exact hbare' c hc

example : words (scan .outside (Shell.quotePosix ['a', '\'', ' '] ++ ' ' :: Shell.quotePosix [])).2 =
    [['a', '\'', ' '], []] := by decide

theorem passes_of_spellings {line : String} {spellings : List (List Char)} {ws : List String}
    (hline : line.toList = [' '].intercalate spellings)
    (h : List.Forall₂ Spells spellings (ws.map String.toList)) (hne : spellings ≠ []) :
    Passes line ws := by
  obtain ⟨ps, hscan, hwords, hcount, hbare⟩ := scan_spellings h hne
  rw [← hline] at hscan
  refine ⟨by rw [hscan], by rw [hscan, hwords], ?_, by rwa [hscan], ?_⟩
  · rw [hscan, hcount, List.length_map]
  · intro c hc hmem
    rw [hscan] at hmem
    obtain ⟨hblank, hharm⟩ := not_harmless_of_active hc
    exact (hbare c hmem).elim hblank hharm

/-! ## Telling arguments apart -/

theorem doubled_injective : Function.Injective fun cs : List Char =>
    cs.flatMap fun c => if c = '"' then ['"', '"'] else [c] := by
  intro cs
  induction cs with
  | nil =>
    intro ds h
    cases ds with
    | nil => rfl
    | cons d ds => by_cases hd : d = '"' <;> simp [hd] at h
  | cons c cs ih =>
    intro ds h
    cases ds with
    | nil => by_cases hc : c = '"' <;> simp [hc] at h
    | cons d ds =>
      by_cases hc : c = '"' <;> by_cases hd : d = '"'
      · have hrest := ih (by simpa [hc, hd] using h)
        rw [hc, hd, hrest]
      · simp [hc, hd, Ne.symm hd] at h
      · simp [hc, hd] at h
      · obtain ⟨hhead, htail⟩ : c = d ∧ _ := by simpa [hc, hd] using h
        rw [hhead, ih htail]

/-- Double quotes are not plain, so no plain argument looks like a quoted one. -/
theorem ne_quoteCmd_of_plain {cs ds : List Char} (h : cs.all Shell.isPlain = true) :
    cs ≠ Shell.quoteCmd ds := by
  rintro rfl
  have hplain : Shell.isPlain '"' = true := List.all_eq_true.mp h '"' (by simp [Shell.quoteCmd])
  exact absurd hplain (by decide)

theorem quoteCmd_injective : Function.Injective Shell.quoteCmd := by
  intro cs ds h
  exact doubled_injective (List.append_cancel_left (List.append_cancel_right h))

theorem quoteChars_injective (d : Dialect) : Function.Injective (Shell.quoteChars d) := by
  intro cs ds h
  cases d with
  | posix =>
    have hcs := spells_quoteChars cs
    rw [h] at hcs
    exact hcs.unique (spells_quoteChars ds)
  | cmd =>
    simp only [Shell.quoteChars] at h
    split at h <;> split at h
    · exact h
    · rename_i hcs _
      exact absurd h (ne_quoteCmd_of_plain hcs.2)
    · rename_i _ hds
      exact absurd h.symm (ne_quoteCmd_of_plain hds.2)
    · exact quoteCmd_injective h

theorem quote_injective (sh : Shell) : Function.Injective sh.quote := by
  intro a b h
  exact String.toList_injective (quoteChars_injective sh.dialect (String.ofList_injective h))

end Quoting

/-! ## The line of a query -/

namespace Command

theorem spells_formatName (f : Format) : Quoting.Spells f.name.toList f.name.toList := by
  cases f with
  | labelKind => exact Quoting.spells_harmless (by decide) (by simp [Quoting.Harmless, Format.name])
  | label => exact Quoting.spells_harmless (by decide) (by simp [Quoting.Harmless, Format.name])

/-- A POSIX shell takes the line of a query for its five words, with nothing bare in it that
could mean anything else. Arguments that differ are written differently for either dialect. -/
theorem line_passes_words (program : String) (arguments : List String)
    (executable expression : String) (format : Format) (timeout : Option Duration) :
    Quoting.Passes
        (line ⟨⟨.posix, program, arguments⟩, executable, expression, format, timeout⟩)
        [executable, "query", expression, "--output", format.name] ∧
      ∀ sh : Shell, Function.Injective sh.quote := by
  refine ⟨?_, Quoting.quote_injective⟩
  have hquery : Quoting.Spells "query".toList "query".toList :=
    Quoting.spells_harmless (by decide) (by simp [Quoting.Harmless])
  have houtput : Quoting.Spells "--output".toList "--output".toList :=
    Quoting.spells_harmless (by decide) (by simp [Quoting.Harmless])
  have hspells : List.Forall₂ Quoting.Spells
      [Shell.quoteChars .posix executable.toList, "query".toList,
        Shell.quoteChars .posix expression.toList, "--output".toList, format.name.toList]
      ([executable, "query", expression, "--output", format.name].map String.toList) :=
    .cons (Quoting.spells_quoteChars _) <| .cons hquery <|
      .cons (Quoting.spells_quoteChars _) <| .cons houtput <|
        .cons (spells_formatName format) .nil
  refine Quoting.passes_of_spellings ?_ hspells (List.cons_ne_nil _ _)
  simp [line, Shell.quote, List.intercalate]

end Command

end BuildAtlas
