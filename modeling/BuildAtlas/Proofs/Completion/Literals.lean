import BuildAtlas.Proofs.Completion.Typed
import Mathlib.Data.List.Basic
import Mathlib.Data.List.Induction

/-! # Which literal a cursor is in

Being inside of a string literal is said from left to right: a quote opens a literal, and only
the same quote closes it again. A completion looks from the cursor to the left instead and stops
at the last quote without a backslash in front of it, of either kind. Both say the same as long
as that quote was read outside of every literal; otherwise it closes a literal or stands in one
of the other kind, and the completion answers for a text that is no beginning of a literal.
-/
namespace BuildAtlas.Completion
variable {cs before opening typed read : List Char} {q c quote : Char} {odd escaped : Bool}

/-! ## Reading from left to right -/

/-- Where a reader of a line is: outside of all literals, or inside of the one that `quote`
opened, with the text read since and whether a backslash escapes what comes next. -/
inductive Place where
  | outside
  | inside (quote : Char) (escaped : Bool) (text : List Char)
  deriving DecidableEq, Repr

/-- A quote opens a literal and the same quote closes it, unless it is escaped. Backslashes
outside of literals mean nothing. -/
def Place.next : Place → Char → Place
  | .outside, c => if isQuote c then .inside c false [] else .outside
  | .inside quote true text, c => .inside quote false (text ++ [c])
  | .inside quote false text, c =>
    if c = quote then .outside else .inside quote (c == '\\') (text ++ [c])

def Place.after (before : List Char) : Place := before.foldl Place.next .outside

theorem Place.after_append (before cs : List Char) :
    after (before ++ cs) = cs.foldl next (after before) := List.foldl_append

theorem Place.after_concat (before : List Char) (c : Char) :
    after (before ++ [c]) = (after before).next c := after_append before [c]

/-- Completions are given inside of literals only, for the text between the opening quote and
the cursor. -/
structure KeepsToLiterals (text : String) (cursor : Cursor) : Prop where
  outside : ∀ before ∈ beforeCursor text cursor, Place.after before = .outside →
    ∀ (w : Workspace) current trigger, w.complete current text cursor trigger = none
  inside : ∀ (w : Workspace) current trigger c, w.complete current text cursor trigger = some c →
    ∃ before ∈ beforeCursor text cursor, ∃ quote escaped,
      Place.after before = .inside quote escaped c.typed.toList

/-! ## Runs of backslashes -/

theorem oddRun_concat (odd : Bool) (cs : List Char) (c : Char) :
    oddRun odd (cs ++ [c]) = (c == '\\' && !oddRun odd cs) := List.foldl_concat _ _ _ _

theorem oddRun_append_quote (hquote : isQuote q = true) (odd : Bool) (opening cs : List Char) :
    oddRun odd (opening ++ q :: cs) = oddRun false cs := by
  rw [oddRun, List.foldl_append, List.foldl_cons, ne_backslash_of_isQuote hquote, Bool.false_and]
  rfl

/-! ## The last quote -/

theorem afterLastQuote_cons_eq_none : afterLastQuote odd (c :: cs) = none ↔
    afterLastQuote (c == '\\' && !odd) cs = none ∧ (isQuote c = true → odd = true) := by
  rw [afterLastQuote]
  cases hrest : afterLastQuote (c == '\\' && !odd) cs with
  | none => cases isQuote c <;> cases odd <;> simp
  | some typed => simp

/-- The last quote of `before` that no backslash escapes. -/
structure LastQuote (before opening : List Char) (quote : Char) (typed : List Char) : Prop where
  split : before = opening ++ quote :: typed
  isQuote : isQuote quote = true
  unescaped : oddRun false opening = false
  last : ∀ passed q rest, typed = passed ++ q :: rest → Completion.isQuote q = true →
    oddRun false passed = true

theorem afterLastQuote_eq_none_iff : afterLastQuote odd cs = none ↔
    ∀ passed q rest, cs = passed ++ q :: rest → isQuote q = true → oddRun odd passed = true := by
  induction cs generalizing odd with
  | nil => simp [afterLastQuote]
  | cons c cs ih =>
    rw [afterLastQuote_cons_eq_none, ih]
    constructor
    · rintro ⟨hrest, hhere⟩ passed q rest hsplit hquote
      cases passed with
      | nil =>
        obtain ⟨rfl, rfl⟩ := List.cons.inj hsplit
        exact hhere hquote
      | cons d passed =>
        obtain ⟨rfl, hcs⟩ := List.cons.inj hsplit
        exact hrest passed q rest hcs hquote
    · intro hall
      exact ⟨fun passed q rest hcs => hall (c :: passed) q rest (congrArg (c :: ·) hcs),
        fun hquote => hall [] c cs rfl hquote⟩

theorem afterLastQuote_iff_lastQuote : afterLastQuote false before = some typed ↔
    ∃ opening quote, LastQuote before opening quote typed := by
  rw [afterLastQuote_eq_some_iff]
  exact exists₂_congr fun opening quote =>
    ⟨fun ⟨hsplit, hquote, heven, hlast⟩ =>
        ⟨hsplit, hquote, heven, afterLastQuote_eq_none_iff.mp hlast⟩,
      fun h => ⟨h.split, h.isQuote, h.unescaped, afterLastQuote_eq_none_iff.mpr h.last⟩⟩

/-! ## Both readings compared -/

theorem Place.inside_of_none (hquote : isQuote quote = true)
    (h : afterLastQuote escaped cs = none) (read : List Char) :
    cs.foldl next (.inside quote escaped read) =
      .inside quote (oddRun escaped cs) (read ++ cs) := by
  induction cs generalizing escaped read with
  | nil => rw [List.append_nil]; rfl
  | cons c cs ih =>
    obtain ⟨hrest, hhere⟩ := afterLastQuote_cons_eq_none.mp h
    have hnext : next (.inside quote escaped read) c =
        .inside quote (c == '\\' && !escaped) (read ++ [c]) := by
      cases escaped with
      | true => rw [next, Bool.not_true, Bool.and_false]
      | false =>
        have hother : c ≠ quote := fun hc => Bool.noConfusion (hhere (hc ▸ hquote))
        rw [next, if_neg hother, Bool.not_false, Bool.and_true]
    rw [List.foldl_cons, hnext, ih hrest, oddRun_cons, List.append_assoc, List.singleton_append]

/-- Inside of a literal the text read is what follows a quote read outside. -/
theorem Place.opened_of_inside (h : after before = .inside quote escaped read) :
    ∃ opening, before = opening ++ quote :: read ∧ isQuote quote = true ∧
      after opening = .outside ∧ oddRun false read = escaped := by
  induction before using List.reverseRecOn generalizing quote escaped read with
  | nil => cases h
  | append_singleton before c ih =>
    rw [after_concat] at h
    cases hplace : after before with
    | outside =>
      rw [hplace, next] at h
      split at h
      · next hquote =>
        cases h
        exact ⟨before, rfl, hquote, hplace, rfl⟩
      · cases h
    | inside opened e text =>
      obtain ⟨opening, rfl, hquote, hout, hrun⟩ := ih hplace
      rw [hplace] at h
      cases e with
      | true =>
        cases h
        refine ⟨opening, by simp, hquote, hout, ?_⟩
        rw [oddRun_concat, hrun, Bool.not_true, Bool.and_false]
      | false =>
        rw [next] at h
        split at h
        · cases h
        · cases h
          refine ⟨opening, by simp, hquote, hout, ?_⟩
          rw [oddRun_concat, hrun, Bool.not_false, Bool.and_true]

theorem Place.escaped_eq_oddRun (h : after before = .inside quote escaped read) :
    escaped = oddRun false before := by
  obtain ⟨opening, rfl, hquote, -, hrun⟩ := opened_of_inside h
  rw [oddRun_append_quote hquote, hrun]

/-- A quote without a backslash in front of it opens a literal, closes one, or stands in one of
the other kind. -/
theorem LastQuote.opens_closes_or_stands (h : LastQuote before opening quote typed) :
    Place.after opening = .outside ∨ (∃ read, Place.after opening = .inside quote false read) ∨
      ∃ other read, other ≠ quote ∧ Place.after opening = .inside other false read := by
  cases hplace : Place.after opening with
  | outside => exact .inl rfl
  | inside opened escaped read =>
    obtain rfl : escaped = false := (Place.escaped_eq_oddRun hplace).trans h.unescaped
    rcases eq_or_ne opened quote with rfl | hother
    · exact .inr (.inl ⟨read, rfl⟩)
    · exact .inr (.inr ⟨opened, read, hother, rfl⟩)

theorem LastQuote.after_eq (h : LastQuote before opening quote typed) :
    Place.after before = typed.foldl .next ((Place.after opening).next quote) := by
  rw [h.split, Place.after_append, List.foldl_cons]

theorem LastQuote.after_of_opens (h : LastQuote before opening quote typed)
    (hopens : Place.after opening = .outside) :
    Place.after before = .inside quote (oddRun false typed) typed := by
  rw [h.after_eq, hopens, Place.next, if_pos h.isQuote,
    Place.inside_of_none h.isQuote (afterLastQuote_eq_none_iff.mpr h.last), List.nil_append]

theorem LastQuote.opens_of_inside (h : LastQuote before opening quote typed)
    (hinside : Place.after before = .inside q escaped typed) : Place.after opening = .outside := by
  rcases h.opens_closes_or_stands with hopens | ⟨read, hcloses⟩ | ⟨other, read, hother, hstands⟩
  · exact hopens
  · -- a literal at hand begins later, and its text is shorter
    have hafter : Place.after typed = .inside q escaped typed := by
      rwa [h.after_eq, hcloses, Place.next, if_pos rfl] at hinside
    obtain ⟨passed, hlater, -⟩ := Place.opened_of_inside hafter
    have hlength := congrArg List.length hlater
    simp only [List.length_append, List.length_cons] at hlength
    omega
  · -- the literal at hand began before, and its text is longer
    obtain ⟨_, -, hquote, -⟩ := Place.opened_of_inside hstands
    rw [h.after_eq, hstands, Place.next, if_neg hother.symm, ne_backslash_of_isQuote h.isQuote,
      Place.inside_of_none hquote (afterLastQuote_eq_none_iff.mpr h.last)] at hinside
    have hlength := congrArg List.length (Place.inside.inj hinside).2.2
    simp only [List.length_append, List.length_singleton] at hlength
    omega

/-! ## Completions -/
variable {w : Workspace} {current : PackagePath} {text : String} {cursor : Cursor}
  {trigger : Option Char} {completion : Completion}

theorem typedAt_eq_some_iff : typedAt text cursor = some typed ↔
    ∃ before ∈ beforeCursor text cursor, ∃ opening quote,
      LastQuote before opening quote typed := by
  simp only [typedAt, Option.bind_eq_some_iff, afterLastQuote_iff_lastQuote, Option.mem_def]

theorem typedAt_of_complete (h : w.complete current text cursor trigger = some completion) :
    typedAt text cursor = some completion.typed.toList := by
  rw [complete_eq_bind, Option.bind_eq_some_iff] at h
  obtain ⟨before, hbefore, hline⟩ := h
  obtain ⟨typed, _, hlast, _, _, rfl⟩ := ofLine_eq_some_iff.mp hline
  rw [typedAt, hbefore, Option.bind_some, String.toList_ofList, hlast]

theorem keepsToLiterals_of_opens (h : ∀ before ∈ beforeCursor text cursor,
    ∀ opening quote typed, LastQuote before opening quote typed →
      Place.after opening = .outside) : KeepsToLiterals text cursor where
  outside before hbefore hout w current trigger := by
    rw [Option.eq_none_iff_forall_ne_some]
    intro completion hcomplete
    obtain ⟨before', hbefore', opening, quote, hlast⟩ := typedAt_eq_some_iff.mp (typedAt_of_complete hcomplete)
    obtain rfl : before = before' := Option.mem_unique hbefore hbefore'
    have hinside := hlast.after_of_opens (h before hbefore _ _ _ hlast)
    rw [hout] at hinside
    cases hinside
  inside w current trigger completion hcomplete := by
    obtain ⟨before, hbefore, opening, quote, hlast⟩ := typedAt_eq_some_iff.mp (typedAt_of_complete hcomplete)
    exact ⟨before, hbefore, quote, _, hlast.after_of_opens (h before hbefore _ _ _ hlast)⟩

theorem KeepsToLiterals.opens (h : KeepsToLiterals text cursor) :
    ∀ before ∈ beforeCursor text cursor, ∀ opening quote typed,
      LastQuote before opening quote typed → Place.after opening = .outside := by
  intro before hbefore opening quote typed hlast
  have htyped := typedAt_eq_some_iff.mpr ⟨before, hbefore, opening, quote, hlast⟩
  -- with a slash as the trigger a completion is given whatever was typed last
  have hasked : (some '/').or typed.getLast? = some '/' := rfl
  obtain ⟨completion, hcomplete, -⟩ :=
    complete_of_typedAt .empty [] htyped hasked (.inl rfl)
  obtain ⟨before', hbefore', quote', escaped, hinside⟩ := h.inside _ _ _ _ hcomplete
  obtain rfl : before = before' := Option.mem_unique hbefore hbefore'
  rw [← Option.some.inj (htyped.symm.trans (typedAt_of_complete hcomplete))] at hinside
  exact hlast.opens_of_inside hinside

/-- A completion is for the text behind the last unescaped quote of either kind. It keeps to the
literals of the line just where that quote opens one. -/
theorem complete_follows_last_quote (text : String) (cursor : Cursor) :
    (∀ (w : Workspace) current trigger completion,
      w.complete current text cursor trigger = some completion →
        ∃ before ∈ beforeCursor text cursor, ∃ opening quote,
          LastQuote before opening quote completion.typed.toList ∧
          (Place.after opening = .outside ∨
            (∃ read, Place.after opening = .inside quote false read) ∨
            ∃ other read, other ≠ quote ∧ Place.after opening = .inside other false read)) ∧
    (KeepsToLiterals text cursor ↔ ∀ before ∈ beforeCursor text cursor, ∀ opening quote typed,
      LastQuote before opening quote typed → Place.after opening = .outside) := by
  refine ⟨fun w current trigger completion hcomplete => ?_, KeepsToLiterals.opens,
    keepsToLiterals_of_opens⟩
  obtain ⟨before, hbefore, opening, quote, hlast⟩ := typedAt_eq_some_iff.mp (typedAt_of_complete hcomplete)
  exact ⟨before, hbefore, opening, quote, hlast, hlast.opens_closes_or_stands⟩

/-- Behind a closed literal a completion is given all the same, here for the text `" /"`. -/
theorem completes_behind_closed_literal :
    ¬ ∀ text cursor, KeepsToLiterals text cursor := by
  intro hkeeps
  have hbefore : beforeCursor "\"a\" /" ⟨0, 5⟩ = some ['"', 'a', '"', ' ', '/'] := by
    decide +kernel
  have hout : Place.after ['"', 'a', '"', ' ', '/'] = .outside := by decide
  have hcomplete : Workspace.empty.complete [] "\"a\" /" ⟨0, 5⟩ none =
      some { typed := " /", line := 0, start := 3, stop := 5, candidates := [] } := by
    decide +kernel
  have hnone := (hkeeps _ _).outside _ hbefore hout .empty [] none
  cases hcomplete.symm.trans hnone

end BuildAtlas.Completion
