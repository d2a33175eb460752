import BuildAtlas.Proofs.Text.Plain
import BuildAtlas.Query.Index

/-! # The line that says why a query failed

A failed query is reported by the first printed line with the marker of the settings at its start,
where colours and blanks in front do not count. The blanks are taken off the line and not off the
marker, so no line is found by a marker that begins with a blank, though the settings may have one.
-/
namespace BuildAtlas

section first
variable {α : Type} {p : α → Prop} {x x' : α} {before before' after after' : List α}

theorem first_unique (h : before ++ x :: after = before' ++ x' :: after') (hx : p x) (hx' : p x')
    (hbefore : ∀ y ∈ before, ¬ p y) (hbefore' : ∀ y ∈ before', ¬ p y) : x = x' := by
  induction before generalizing before' with
  | nil =>
    cases before' with
    | nil => exact (List.cons.inj h).1
    | cons y before' =>
      obtain rfl := (List.cons.inj h).1
      exact absurd hx (hbefore' _ List.mem_cons_self)
  | cons y before ih =>
    cases before' with
    | nil =>
      obtain rfl := (List.cons.inj h).1
      exact absurd hx' (hbefore _ List.mem_cons_self)
    | cons y' before' =>
      exact ih (List.cons.inj h).2 (fun z hz => hbefore z (List.mem_cons_of_mem y hz))
        fun z hz => hbefore' z (List.mem_cons_of_mem y' hz)

end first

namespace Output
variable {marker plain : List Char}

/-- Without colours, the line starts with the marker, or blanks and the marker. -/
def Marked (marker line : String) (plain : List Char) : Prop :=
  Text.Uncoloured line.toList plain ∧ ∃ gap rest, gap.all Text.isBlank = true ∧
    plain = gap ++ marker.toList ++ rest

/-- What is to be told of some lines: the first one that is marked, without its colours and the
blanks around it, or else that the error is not known. -/
inductive Tells (marker : String) (lines : List String) : String → Prop
  | marked {before line after plain inner} : lines = before ++ line :: after →
      (∀ other ∈ before, ∀ plain, ¬ Marked marker other plain) → Marked marker line plain →
      Text.Trimmed plain inner → Tells marker lines (String.ofList inner)
  | unknown : (∀ line ∈ lines, ∀ plain, ¬ Marked marker line plain) →
      Tells marker lines unknownError

theorem Tells.unique {marker : String} {lines : List String} {text text' : String}
    (h : Tells marker lines text) (h' : Tells marker lines text') : text = text' := by
  cases h with
  | unknown hnone =>
    cases h' with
    | unknown => rfl
    | marked hlines _ hmarked =>
      exact absurd hmarked (hnone _ (hlines ▸ List.mem_append_right _ List.mem_cons_self) _)
  | marked hlines hbefore hmarked htrimmed =>
    cases h' with
    | unknown hnone =>
      exact absurd hmarked (hnone _ (hlines ▸ List.mem_append_right _ List.mem_cons_self) _)
    | marked hlines' hbefore' hmarked' htrimmed' =>
      -- the same line is the first in both, and so are its plain text and what is left of that
      obtain rfl := first_unique (p := fun line => ∃ plain, Marked marker line plain)
        (hlines.symm.trans hlines') ⟨_, hmarked⟩ ⟨_, hmarked'⟩
        (fun other hother ⟨plain, h⟩ => hbefore other hother plain h)
        fun other hother ⟨plain, h⟩ => hbefore' other hother plain h
      obtain rfl := (Text.uncoloured_eq_iff.mpr hmarked.1).symm.trans
        (Text.uncoloured_eq_iff.mpr hmarked'.1)
      rw [← Text.trim_eq_iff.mpr htrimmed, Text.trim_eq_iff.mpr htrimmed']

theorem startsWithMarker_iff (hmarker : ∀ c ∈ marker.head?, Text.isBlank c = false) :
    startsWithMarker marker plain = true ↔
      ∃ gap rest, gap.all Text.isBlank = true ∧ plain = gap ++ marker ++ rest := by
  rw [startsWithMarker, List.isPrefixOf_iff_prefix]
  constructor
  · rintro ⟨rest, hrest⟩
    refine ⟨plain.takeWhile Text.isBlank, rest, List.all_takeWhile, ?_⟩
    rw [List.append_assoc, hrest]
    exact List.takeWhile_append_dropWhile.symm
  · rintro ⟨gap, rest, hgap, rfl⟩
    cases marker with
    | nil => exact List.nil_prefix
    | cons c marker =>
      have hstart : Text.trimStart (gap ++ c :: marker ++ rest) = c :: marker ++ rest := by
        rw [Text.trimStart, List.append_assoc]
        exact Text.dropWhile_append_of_head (List.all_eq_true.mp hgap) hmarker
      rw [hstart]
      exact List.prefix_append _ _

theorem startsWithMarker_of_blank {c : Char} (hc : c ∈ marker.head?)
    (hblank : Text.isBlank c = true) : startsWithMarker marker plain = false := by
  rw [Bool.eq_false_iff, startsWithMarker, ne_eq, List.isPrefixOf_iff_prefix]
  rintro ⟨rest, hrest⟩
  -- the marker would put its blank at the start of the line, where blanks have been taken off
  have hhead : c ∈ (plain.dropWhile Text.isBlank).head? := by
    rw [← Text.trimStart, ← hrest, List.head?_append, Option.mem_def.mp hc]
    rfl
  rw [Text.eq_false_of_mem_head?_dropWhile hhead] at hblank
  cases hblank

section lines
variable {marker : String} (lines : List String)

theorem marked_iff (hmarker : ∀ c ∈ marker.toList.head?, Text.isBlank c = false) {line : String}
    {plain : List Char} : Marked marker line plain ↔ Text.uncoloured line.toList = plain ∧
      startsWithMarker marker.toList plain = true := by
  rw [Marked, ← Text.uncoloured_eq_iff, startsWithMarker_iff hmarker]

theorem tells_errorLine (hmarker : ∀ c ∈ marker.toList.head?, Text.isBlank c = false) :
    Tells marker lines (errorLine marker lines) := by
  rw [errorLine]
  cases hfind : (lines.map fun line => Text.uncoloured line.toList).find?
      (startsWithMarker marker.toList) with
  | none =>
    refine .unknown fun line hline plain hmarked => ?_
    obtain ⟨rfl, hstarts⟩ := (marked_iff hmarker).mp hmarked
    exact List.find?_eq_none.mp hfind _ (List.mem_map_of_mem hline) hstarts
  | some plain =>
    obtain ⟨hstarts, before, after, hsplit, hnone⟩ := List.find?_eq_some_iff_append.mp hfind
    obtain ⟨before, rest, rfl, rfl, hrest⟩ := List.map_eq_append_iff.mp hsplit
    obtain ⟨line, after, rfl, rfl, rfl⟩ := List.map_eq_cons_iff.mp hrest
    refine .marked rfl (fun other hother plain hmarked => ?_)
      ((marked_iff hmarker).mpr ⟨rfl, hstarts⟩) (Text.trimmed_trim _)
    obtain ⟨rfl, hother'⟩ := (marked_iff hmarker).mp hmarked
    simpa [hother'] using hnone _ (List.mem_map_of_mem hother)

theorem errorLine_of_blank {c : Char} (hc : c ∈ marker.toList.head?)
    (hblank : Text.isBlank c = true) : errorLine marker lines = unknownError := by
  have hfind : (lines.map fun line => Text.uncoloured line.toList).find?
      (startsWithMarker marker.toList) = none :=
    List.find?_eq_none.mpr fun plain _ => by simp [startsWithMarker_of_blank hc hblank]
  rw [errorLine, hfind]

end lines

end Output

namespace Query
variable {σ : Type} {tool : Tool σ} {s : Settings} {c : Command} {st st' : σ} {o : Output}

theorem ask_of_failed (h : tool.run c st = (.ok o, st')) (ho : o.succeeded = false) :
    (ask tool s c st).result = .error (.query (Output.errorLine s.errorMarker o.stderrLines)) := by
  simp [ask, h, accept, ho]

end Query

namespace Output

/-- The first marked line is told just when the marker does not begin with a blank, or when there is
nothing else to be told. A query that failed has the told line as its fault. -/
theorem errorLine_found_by_marker (marker : String) (lines : List String) :
    (Tells marker lines (errorLine marker lines) ↔
      (∀ c ∈ marker.toList.head?, Text.isBlank c = false) ∨ Tells marker lines unknownError) ∧
    ((∃ c ∈ marker.toList.head?, Text.isBlank c = true) →
      errorLine marker lines = unknownError) ∧
    ∀ {σ : Type} (tool : Tool σ) (s : Settings) c st o st', tool.run c st = (.ok o, st') →
      o.succeeded = false → s.errorMarker = marker → o.stderrLines = lines →
      (Query.ask tool s c st).result = .error (.query (errorLine marker lines)) := by
  have hoverlooked : (∃ c ∈ marker.toList.head?, Text.isBlank c = true) →
      errorLine marker lines = unknownError := fun ⟨_, hc, hblank⟩ =>
    errorLine_of_blank lines hc hblank
  have hkinds : (∀ c ∈ marker.toList.head?, Text.isBlank c = false) ∨
      errorLine marker lines = unknownError := by
    by_cases hblank : ∃ c ∈ marker.toList.head?, Text.isBlank c = true
    · exact .inr (hoverlooked hblank)
    · exact .inl fun c hc => Bool.eq_false_iff.mpr fun h => hblank ⟨c, hc, h⟩
  refine ⟨⟨fun htells => ?_, ?_⟩, hoverlooked, ?_⟩
  · rcases hkinds with hmarker | hunfound
    · exact .inl hmarker
    · exact .inr (hunfound ▸ htells)
  · rintro (hmarker | hunknown)
    · exact tells_errorLine lines hmarker
    · rcases hkinds with hmarker | hunfound
      · exact tells_errorLine lines hmarker
      · rwa [hunfound]
  · rintro σ tool s c st o st' hrun ho rfl rfl
    exact Query.ask_of_failed hrun ho

/-- The settings accept a marker that begins with a blank, and no line is found by it, even one
that starts with the very marker. -/
theorem errorLine_overlooks_marked :
    ¬ ∀ json settings, Settings.ofJson? json = some settings → ∀ lines,
      Tells settings.errorMarker lines (errorLine settings.errorMarker lines) := by
  intro htells
  have hsettings : Settings.ofJson? (.object [("bazel",
      .object [("errorMarker", .string " ERROR")])]) = some { errorMarker := " ERROR" } := by decide
  have hline : errorLine " ERROR" [" ERROR: no such package"] = unknownError := by decide +kernel
  have hmarked : Marked " ERROR" " ERROR: no such package" " ERROR: no such package".toList := by
    refine ⟨Text.uncoloured_eq_iff.mp (by decide +kernel), [], ": no such package".toList, rfl, ?_⟩
    decide +kernel
  have htrimmed : Text.Trimmed " ERROR: no such package".toList "ERROR: no such package".toList :=
    Text.trim_eq_iff.mp (by decide +kernel)
  have htold : Tells " ERROR" [" ERROR: no such package"] "ERROR: no such package" :=
    .marked (List.nil_append _).symm (by simp) hmarked htrimmed
  have hfound := htells _ _ hsettings [" ERROR: no such package"]
  rw [hline] at hfound
  exact absurd (hfound.unique htold) (by decide +kernel)

end Output

end BuildAtlas
