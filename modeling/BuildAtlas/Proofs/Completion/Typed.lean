import BuildAtlas.Completion
import Mathlib.Data.Option.Basic

/-! # What was typed at a cursor

A completion is asked for in two steps: the line is cut at the cursor, and what stands in front
of the cursor is cut at its last opening quote. All that a completion says is said by these two
pieces and by the character that asked for it.
-/
namespace BuildAtlas.Completion
variable {w : Workspace} {current : PackagePath} {text : String} {cursor : Cursor} {line : Nat}
  {before typed cs : List Char} {trigger : Option Char} {c : Completion} {asked q : Char}
  {odd : Bool}

/-- The part of its line in front of a cursor. -/
def beforeCursor (text : String) (cursor : Cursor) : Option (List Char) :=
  (Text.lines text)[cursor.line]?.map fun line => Text.takeUnits cursor.character line.toList

/-- The text between the last opening quote and a cursor. -/
def typedAt (text : String) (cursor : Cursor) : Option (List Char) :=
  (beforeCursor text cursor).bind (afterLastQuote false)

/-! ## The last quote -/

/-- Whether an odd run of backslashes has just been passed. -/
def oddRun (odd : Bool) (cs : List Char) : Bool :=
  cs.foldl (fun odd c => c == '\\' && !odd) odd

theorem oddRun_cons (odd : Bool) (c : Char) (cs : List Char) :
    oddRun odd (c :: cs) = oddRun (c == '\\' && !odd) cs := rfl

theorem ne_backslash_of_isQuote (h : isQuote q = true) : (q == '\\') = false := by
  have hkinds : q = '"' ∨ q = '\'' := by simpa [isQuote] using h
  rcases hkinds with rfl | rfl <;> rfl

theorem afterLastQuote_eq_some_iff : afterLastQuote odd cs = some typed ↔
    ∃ opening quote, cs = opening ++ quote :: typed ∧ isQuote quote = true ∧
      oddRun odd opening = false ∧ afterLastQuote false typed = none := by
  induction cs generalizing odd with
  | nil => simp [afterLastQuote]
  | cons c cs ih =>
    rw [afterLastQuote]
    constructor
    · intro hfound
      cases hrest : afterLastQuote (c == '\\' && !odd) cs with
      | some found =>
        simp only [hrest, Option.some.injEq] at hfound
        subst hfound
        obtain ⟨opening, quote, rfl, hquote, heven, hlast⟩ := ih.mp hrest
        exact ⟨c :: opening, quote, rfl, hquote, heven, hlast⟩
      | none =>
        simp only [hrest, Option.ite_none_right_eq_some, Bool.and_eq_true, Bool.not_eq_true',
          Option.some.injEq] at hfound
        obtain ⟨⟨hquote, heven⟩, rfl⟩ := hfound
        rw [ne_backslash_of_isQuote hquote, Bool.false_and] at hrest
        exact ⟨[], c, rfl, hquote, heven, hrest⟩
    · rintro ⟨opening, quote, hsplit, hquote, heven, hlast⟩
      cases opening with
      | nil =>
        obtain ⟨rfl, rfl⟩ := List.cons.inj hsplit
        obtain rfl : odd = false := heven
        simp [ne_backslash_of_isQuote hquote, hlast, hquote]
      | cons d opening =>
        obtain ⟨rfl, rfl⟩ := List.cons.inj hsplit
        rw [ih.mpr ⟨opening, quote, rfl, hquote, heven, hlast⟩]

/-! ## The completion -/

theorem ofLine_eq_some_iff : ofLine w current trigger line before = some c ↔
    ∃ typed asked, afterLastQuote false before = some typed ∧
      trigger.or typed.getLast? = some asked ∧ (asked = '/' ∨ asked = ':') ∧
      c = { typed := String.ofList typed
            line
            start := Text.width before - Text.width typed
            stop := Text.width before
            candidates := candidatesFor w current asked typed } := by
  simp only [ofLine, Option.bind_eq_bind, Option.bind_eq_some_iff, Option.guard_eq_some']
  constructor
  · rintro ⟨typed, htyped, asked, hasked, _, hslash, hc⟩
    exact ⟨typed, asked, htyped, hasked, hslash, (Option.some.inj hc).symm⟩
  · rintro ⟨typed, asked, htyped, hasked, hslash, rfl⟩
    exact ⟨typed, htyped, asked, hasked, (), hslash, rfl⟩

theorem complete_eq_bind : w.complete current text cursor trigger =
    (beforeCursor text cursor).bind (ofLine w current trigger cursor.line) := by
  rw [beforeCursor, Option.bind_map]
  rfl

theorem complete_of_typedAt (w : Workspace) (current : PackagePath)
    (htyped : typedAt text cursor = some typed)
    (hasked : trigger.or typed.getLast? = some asked) (hslash : asked = '/' ∨ asked = ':') :
    ∃ c, w.complete current text cursor trigger = some c ∧
      c.candidates = candidatesFor w current asked typed := by
  obtain ⟨before, hbefore, hquote⟩ := Option.bind_eq_some_iff.mp htyped
  rw [complete_eq_bind, hbefore, Option.bind_some]
  exact ⟨_, ofLine_eq_some_iff.mpr ⟨typed, asked, hquote, hasked, hslash, rfl⟩, rfl⟩

end BuildAtlas.Completion
