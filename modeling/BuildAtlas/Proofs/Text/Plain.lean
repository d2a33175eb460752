import BuildAtlas.Query.Output
import Mathlib.Data.List.Infix
import Mathlib.Data.List.TakeWhile

/-! # Plain text

A tool may colour what it prints and set it in from the margin. The colours are taken out from left
to right, each sequence as a whole, and what stands before and after it does not make another one.
Trimming leaves the stretch that begins and ends with no blank.
-/
namespace BuildAtlas.Text

/-! ## Colours -/

/-- A colour sequence has parameters between its two opening characters and a letter. -/
inductive IsColour : List Char → Prop
  | sequence {parameters letter} : (∀ c ∈ parameters, isColourParameter c = true) →
      letter.isAlpha = true → IsColour ('\x1b' :: '[' :: (parameters ++ [letter]))

/-- A text is read from left to right. What is kept does not begin a sequence where it stands. -/
inductive Uncoloured : List Char → List Char → Prop
  | nil : Uncoloured [] []
  | colour {colour rest plain} : IsColour colour → Uncoloured rest plain →
      Uncoloured (colour ++ rest) plain
  | keep {c rest plain} : (∀ colour, IsColour colour → ¬ colour <+: c :: rest) →
      Uncoloured rest plain → Uncoloured (c :: rest) (c :: plain)

variable {cs rest plain inner before after : List Char} {c : Char}

/-- The parameters come before the letters in the order of characters. -/
theorem not_isColourParameter_of_isAlpha (h : c.isAlpha = true) : isColourParameter c = false := by
  have hletter : 'A'.val ≤ c.val := by
    have hcases : (decide ('A'.val ≤ c.val ∧ c.val ≤ 'Z'.val) ||
        (decide ('a'.val ≤ c.val) && decide (c.val ≤ 'z'.val))) = true := h
    simp only [Bool.or_eq_true, Bool.and_eq_true, decide_eq_true_eq] at hcases
    rcases hcases with ⟨hupper, _⟩ | ⟨hlower, _⟩
    · exact hupper
    · exact UInt32.le_trans (by decide) hlower
  rw [Bool.eq_false_iff]
  intro hparameter
  have hcases : (decide ('0'.val ≤ c.val) && decide (c.val ≤ '9'.val) || decide (c = ';') ||
      decide (c = '?')) = true := hparameter
  simp only [Bool.or_eq_true, Bool.and_eq_true, decide_eq_true_eq] at hcases
  rcases hcases with (⟨_, hdigit⟩ | rfl) | rfl
  · exact absurd (UInt32.le_trans hletter hdigit) (by decide)
  · exact absurd hletter (by decide)
  · exact absurd hletter (by decide)

theorem eq_false_of_mem_head?_dropWhile {p : Char → Bool} (hc : c ∈ (cs.dropWhile p).head?) :
    p c = false := by
  have hnot := List.head?_dropWhile_not p cs
  rwa [Option.mem_def.mp hc] at hnot

theorem dropWhile_append_of_head {p : Char → Bool} (hbefore : ∀ c ∈ before, p c = true)
    (hrest : ∀ c ∈ rest.head?, p c = false) : (before ++ rest).dropWhile p = rest := by
  rw [List.dropWhile_append_of_pos hbefore]
  cases rest with
  | nil => rfl
  | cons c rest => exact List.dropWhile_cons_of_neg (by simp [hrest c rfl])

theorem afterColour_eq_some_iff : afterColour cs = some rest ↔
    ∃ colour, IsColour colour ∧ '\x1b' :: '[' :: cs = colour ++ rest := by
  constructor
  · intro h
    unfold afterColour at h
    split at h
    · next letter after hdrop =>
      split at h
      · next hletter =>
        obtain rfl := Option.some.inj h
        have hcs := List.takeWhile_append_dropWhile (p := isColourParameter) (l := cs)
        rw [hdrop] at hcs
        have hparameters : ∀ c ∈ cs.takeWhile isColourParameter, isColourParameter c = true :=
          fun c => List.mem_takeWhile_imp
        refine ⟨_, .sequence hparameters hletter, ?_⟩
        simpa using hcs.symm
      · cases h
    · cases h
  · rintro ⟨_, ⟨hparameters, hletter⟩, hcs⟩
    obtain rfl : cs = _ ++ _ :: rest := by simpa using hcs
    rw [afterColour, dropWhile_append_of_head hparameters
      (by simpa using not_isColourParameter_of_isAlpha hletter)]
    simp [hletter]

theorem afterColour_eq_none_iff : afterColour cs = none ↔
    ∀ colour, IsColour colour → ¬ colour <+: '\x1b' :: '[' :: cs := by
  rw [Option.eq_none_iff_forall_ne_some]
  constructor
  · rintro h colour hcolour ⟨rest, hrest⟩
    exact h rest (afterColour_eq_some_iff.mpr ⟨colour, hcolour, hrest.symm⟩)
  · intro h rest hrest
    obtain ⟨colour, hcolour, hcs⟩ := afterColour_eq_some_iff.mp hrest
    exact h colour hcolour ⟨rest, hcs.symm⟩

theorem uncoloured_spec (cs : List Char) : Uncoloured cs (uncoloured cs) := by
  fun_induction uncoloured cs with
  | case1 => exact .nil
  | case2 cs rest hrest ih =>
    obtain ⟨colour, hcolour, hcs⟩ := afterColour_eq_some_iff.mp hrest
    exact hcs ▸ .colour hcolour ih
  | case3 cs hnone ih => exact .keep (afterColour_eq_none_iff.mp hnone) ih
  | case4 c cs hother ih =>
    refine .keep ?_ ih
    rintro _ ⟨_, _⟩ hprefix
    obtain ⟨hc, more, hmore⟩ := List.cons_prefix_cons.mp hprefix
    exact hother _ hc.symm hmore.symm

theorem uncoloured_cons (h : ∀ colour, IsColour colour → ¬ colour <+: c :: cs) :
    uncoloured (c :: cs) = c :: uncoloured cs := by
  by_cases hopens : c = '\x1b' ∧ ∃ more, cs = '[' :: more
  · obtain ⟨rfl, more, rfl⟩ := hopens
    rw [uncoloured]
    split
    · next rest hrest => cases (afterColour_eq_none_iff.mpr h).symm.trans hrest
    · rfl
  · rw [uncoloured]
    exact fun more hc hcs => hopens ⟨hc, more, hcs⟩

theorem Uncoloured.eq (h : Uncoloured cs plain) : uncoloured cs = plain := by
  induction h with
  | nil => rw [uncoloured]
  | @colour colour rest plain hcolour _ ih =>
    have hafter : ∃ cs, colour ++ rest = '\x1b' :: '[' :: cs ∧ afterColour cs = some rest := by
      obtain ⟨hparameters, hletter⟩ := hcolour
      exact ⟨_, rfl, afterColour_eq_some_iff.mpr ⟨_, .sequence hparameters hletter, rfl⟩⟩
    obtain ⟨cs, hcs, hafter⟩ := hafter
    rw [hcs, uncoloured]
    split
    · next after h =>
      obtain rfl := Option.some.inj (hafter.symm.trans h)
      exact ih
    · next h => cases hafter.symm.trans h
  | keep hkept _ ih => rw [uncoloured_cons hkept, ih]

theorem uncoloured_eq_iff : uncoloured cs = plain ↔ Uncoloured cs plain :=
  ⟨fun h => h ▸ uncoloured_spec cs, Uncoloured.eq⟩

/-! ## Blanks at the ends -/

structure Trimmed (cs inner : List Char) : Prop where
  split : ∃ before after, before.all isBlank = true ∧ after.all isBlank = true ∧
    cs = before ++ inner ++ after
  first : ∀ c ∈ inner.head?, isBlank c = false
  last : ∀ c ∈ inner.getLast?, isBlank c = false

theorem trimEnd_append (cs : List Char) :
    trimEnd cs ++ (cs.reverse.takeWhile isBlank).reverse = cs := by
  rw [trimEnd, ← List.reverse_append, List.takeWhile_append_dropWhile, List.reverse_reverse]

theorem trimmed_trim (cs : List Char) : Trimmed cs (trim cs) := by
  have hstart : cs.takeWhile isBlank ++ trimStart cs = cs := List.takeWhile_append_dropWhile
  have hend := trimEnd_append (trimStart cs)
  refine ⟨⟨cs.takeWhile isBlank, ((trimStart cs).reverse.takeWhile isBlank).reverse,
    List.all_takeWhile, ?_, ?_⟩, fun c hc => ?_, fun c hc => ?_⟩
  · rw [List.all_reverse, List.all_takeWhile]
  · rw [trim, List.append_assoc, hend, hstart]
  · rw [trim] at hc
    have hhead : c ∈ (trimStart cs).head? := by
      rw [← hend, List.head?_append, Option.mem_def.mp hc]
      rfl
    exact eq_false_of_mem_head?_dropWhile hhead
  · rw [trim, trimEnd, List.getLast?_reverse] at hc
    exact eq_false_of_mem_head?_dropWhile hc

theorem Trimmed.eq (h : Trimmed cs inner) : trim cs = inner := by
  obtain ⟨⟨before, after, hbefore, hafter, rfl⟩, hfirst, hlast⟩ := h
  rw [List.all_eq_true] at hbefore hafter
  cases inner with
  | nil =>
    have hall : ∀ c ∈ before ++ [] ++ after, isBlank c = true := by
      intro c hc
      rw [List.append_nil, List.mem_append] at hc
      exact hc.elim (hbefore c) (hafter c)
    rw [trim, trimStart, List.dropWhile_eq_nil_iff.mpr hall]
    rfl
  | cons c inner =>
    have hstart : trimStart (before ++ (c :: inner) ++ after) = (c :: inner) ++ after := by
      rw [trimStart, List.append_assoc]
      exact dropWhile_append_of_head hbefore hfirst
    have hrest : ∀ d ∈ (c :: inner).reverse.head?, isBlank d = false := by
      rw [List.head?_reverse]
      exact hlast
    rw [trim, hstart, trimEnd, List.reverse_append,
      dropWhile_append_of_head (fun d hd => hafter d (List.mem_reverse.mp hd)) hrest,
      List.reverse_reverse]

theorem trim_eq_iff : trim cs = inner ↔ Trimmed cs inner :=
  ⟨fun h => h ▸ trimmed_trim cs, Trimmed.eq⟩

end BuildAtlas.Text
