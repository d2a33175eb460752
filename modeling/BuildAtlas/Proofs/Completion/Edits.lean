import BuildAtlas.Editor
import BuildAtlas.Proofs.Completion.Typed
import BuildAtlas.Proofs.Text.Units
import Mathlib.Data.List.Forall2

/-! # Edits replace what was typed

The text in front of a cursor ends with what was typed, so the two columns of a completion lie
at seams of the line: between the opening quote and the typed text, and between the typed text
and what follows the cursor. An edit of that range therefore exchanges the typed text and
nothing else, whether the line is taken as characters, bytes or UTF-16 units.
-/
namespace BuildAtlas

namespace Completion
variable {w : Workspace} {current : PackagePath} {text : String} {cursor : Cursor}
  {before after typed : List Char} {trigger : Option Char} {c : Completion} {line : String}

/-- A completion lies on a line between what stands before the typed text and what stands after
the cursor. -/
structure Covers (c : Completion) (cursor : Cursor) (line : String) (before after : List Char) :
    Prop where
  row : c.line = cursor.line
  parts : line.toList = before ++ c.typed.toList ++ after
  opened : ∃ quote ∈ before.getLast?, isQuote quote = true
  start : c.start = Text.width before
  stop : c.stop = Text.width (before ++ c.typed.toList)
  reached : Text.takeUnits cursor.character line.toList = before ++ c.typed.toList

theorem exists_covers (hc : w.complete current text cursor trigger = some c) :
    ∃ line before after, (Text.lines text)[cursor.line]? = some line ∧
      c.Covers cursor line before after := by
  rw [complete_eq_bind] at hc
  obtain ⟨reached, hreached, hmade⟩ := Option.bind_eq_some_iff.mp hc
  obtain ⟨line, hline, htake⟩ := Option.map_eq_some_iff.mp hreached
  obtain ⟨typed, asked, hquote, _, _, rfl⟩ := ofLine_eq_some_iff.mp hmade
  obtain ⟨opening, quote, hparts, hq, -⟩ := afterLastQuote_eq_some_iff.mp hquote
  rw [List.append_cons] at hparts
  obtain ⟨after, hafter⟩ := Text.takeUnits_prefix cursor.character line.toList
  refine ⟨line, opening ++ [quote], after, hline, rfl, ?_, ⟨quote, by simp, hq⟩, ?_, ?_, ?_⟩
  · rw [String.toList_ofList, ← hparts, ← hafter, htake]
  · rw [hparts, Text.width_append _ typed, Nat.add_sub_cancel]
  · rw [String.toList_ofList, hparts]
  · rw [String.toList_ofList, htake, hparts]

namespace Covers
variable (h : c.Covers cursor line before after)
include h

/-- Subtracting the typed width from the cursor's column needs no borrow, also in 32 bits. -/
theorem columns (hshort : Text.width line.toList < UInt32.size) :
    c.stop < UInt32.size ∧
      UInt32.ofNat (Text.width c.typed.toList) ≤ UInt32.ofNat c.stop ∧
      (UInt32.ofNat c.stop - UInt32.ofNat (Text.width c.typed.toList)).toNat = c.start := by
  have hstart := h.start
  have hstop := h.stop
  have hline := congrArg Text.width h.parts
  rw [Text.width_append] at hstop
  rw [Text.width_append, Text.width_append] at hline
  have hfits : c.stop < UInt32.size := by omega
  have htyped : Text.width c.typed.toList < UInt32.size := by omega
  have hle : UInt32.ofNat (Text.width c.typed.toList) ≤ UInt32.ofNat c.stop := by
    rw [UInt32.le_iff_toNat_le, UInt32.toNat_ofNat_of_lt' htyped, UInt32.toNat_ofNat_of_lt' hfits]
    omega
  refine ⟨hfits, hle, ?_⟩
  rw [UInt32.toNat_sub_of_le _ _ hle, UInt32.toNat_ofNat_of_lt' htyped,
    UInt32.toNat_ofNat_of_lt' hfits]
  omega

theorem byteOffset_start : Text.byteOffset line.toList c.start = Text.byteLength before := by
  rw [h.parts, h.start, List.append_assoc, Text.byteOffset_width]

theorem byteOffset_stop :
    Text.byteOffset line.toList c.stop = Text.byteLength (before ++ c.typed.toList) := by
  rw [h.parts, h.stop, Text.byteOffset_width]

theorem byteOffset_cursor :
    Text.byteOffset line.toList cursor.character = Text.byteOffset line.toList c.stop := by
  rw [h.byteOffset_stop, Text.byteOffset, h.reached]

/-- Between the two offsets lie the bytes that were typed. -/
theorem extract_typed : line.toByteArray.extract (Text.byteOffset line.toList c.start)
    (Text.byteOffset line.toList c.stop) = c.typed.toByteArray := by
  have hline : line.toByteArray =
      before.utf8Encode ++ (c.typed.toByteArray ++ after.utf8Encode) := by
    rw [← String.utf8Encode_toList, h.parts, List.utf8Encode_append, List.utf8Encode_append,
      String.utf8Encode_toList, ByteArray.append_assoc]
  have hsize : Text.byteLength c.typed.toList = c.typed.toByteArray.size :=
    Text.byteLength_toList c.typed
  rw [h.byteOffset_start, h.byteOffset_stop, Text.byteLength_append, hline, hsize,
    Text.byteLength_eq_size]
  calc _ = (c.typed.toByteArray ++ after.utf8Encode).extract 0 c.typed.toByteArray.size :=
        ByteArray.extract_append_size_add
    _ = c.typed.toByteArray := ByteArray.extract_append_eq_left rfl

end Covers

end Completion

/-! ## Applying an edit -/

namespace Editor
variable {w : Workspace} {current : PackagePath} {text : String} {cursor : Cursor}
  {before after : List Char} {trigger : Option Char} {c : Completion} {line : String}

/-- Apply an edit that lies on one line to the UTF-16 units of the line. -/
def TextEdit.applyToUnits (edit : TextEdit) (units : List Nat) : List Nat :=
  units.take edit.range.start.character ++ Text.codeUnits edit.newText.toList ++
    units.drop edit.range.stop.character

/-- An item that puts a candidate's text between two parts of a line and leaves these alone. -/
structure Item.Inserts (item : Item) (a : Candidate) (row : Nat) (line before after : List Char) :
    Prop where
  newText : item.edit.newText = a.insertText
  filterText : item.filterText = a.insertText
  rows : item.edit.range.start.line = row ∧ item.edit.range.stop.line = row
  applyTo : item.edit.applyTo line = before ++ a.insertText.toList ++ after
  applyToUnits : item.edit.applyToUnits (Text.codeUnits line) =
    Text.codeUnits (before ++ a.insertText.toList ++ after)

theorem inserts_ofCandidate (h : c.Covers cursor line before after) (a : Candidate) :
    (Item.ofCandidate (typedRange c) a).Inserts a cursor.line line.toList before after where
  newText := rfl
  filterText := rfl
  rows := ⟨h.row, h.row⟩
  applyTo := by
    have hstart : Text.takeUnits c.start line.toList = before := by
      rw [h.parts, h.start, List.append_assoc, Text.takeUnits_width]
    have hstop : Text.takeUnits c.stop line.toList = before ++ c.typed.toList := by
      rw [h.parts, h.stop, Text.takeUnits_width]
    have hrest : line.toList.drop (before ++ c.typed.toList).length = after := by
      rw [h.parts, List.drop_left]
    simp only [TextEdit.applyTo, Item.ofCandidate, typedRange, hstart, hstop, hrest]
  applyToUnits := by
    have hunits : Text.codeUnits line.toList =
        Text.codeUnits before ++ Text.codeUnits c.typed.toList ++ Text.codeUnits after := by
      rw [h.parts, Text.codeUnits_append, Text.codeUnits_append]
    have hstart : (Text.codeUnits line.toList).take c.start = Text.codeUnits before := by
      rw [hunits, h.start, ← Text.length_codeUnits, List.append_assoc, List.take_left]
    have hstop : (Text.codeUnits line.toList).drop c.stop = Text.codeUnits after := by
      rw [hunits, h.stop, ← Text.length_codeUnits, Text.codeUnits_append, List.drop_left]
    simp only [TextEdit.applyToUnits, Item.ofCandidate, typedRange, hstart, hstop,
      Text.codeUnits_append]

/-- The range of a completion is the typed text, in columns and in bytes, and each item of it
exchanges that text for its candidate's. -/
theorem items_replace_typed (hc : w.complete current text cursor trigger = some c)
    (hshort : ∀ line ∈ (Text.lines text)[cursor.line]?, Text.width line.toList < UInt32.size) :
    ∃ line before after, (Text.lines text)[cursor.line]? = some line ∧
      line.toList = before ++ c.typed.toList ++ after ∧
      (c.stop < UInt32.size ∧
        UInt32.ofNat (Text.width c.typed.toList) ≤ UInt32.ofNat c.stop ∧
        (UInt32.ofNat c.stop - UInt32.ofNat (Text.width c.typed.toList)).toNat = c.start) ∧
      (Text.byteOffset line.toList c.start = Text.byteLength before ∧
        Text.byteOffset line.toList cursor.character = Text.byteOffset line.toList c.stop ∧
        line.toByteArray.extract (Text.byteOffset line.toList c.start)
          (Text.byteOffset line.toList c.stop) = c.typed.toByteArray) ∧
      List.Forall₂ (fun a item => Item.Inserts item a cursor.line line.toList before after)
        c.candidates (items c) := by
  obtain ⟨line, before, after, hline, h⟩ := Completion.exists_covers hc
  refine ⟨line, before, after, hline, h.parts, h.columns (hshort line hline),
    ⟨h.byteOffset_start, h.byteOffset_cursor, h.extract_typed⟩, ?_⟩
  rw [items, List.forall₂_map_right_iff, List.forall₂_same]
  exact fun a _ => inserts_ofCandidate h a

/-- The cursor stands inside the surrogate pair of the package that was typed. -/
theorem items_replace_typed_inside_pair :
    ∃ c, (Workspace.empty.insertTarget ⟨["😀", "b"], "x", ""⟩).2.complete [] "\"//😀\"," ⟨0, 4⟩
        (some '/') = some c ∧
      c.typed = "//😀" ∧ c.start = 1 ∧ c.stop = 5 ∧
      c.candidates.map (·.insertText) = ["//😀/b"] ∧
      (∀ line ∈ (Text.lines "\"//😀\",")[0]?, Text.width line.toList < UInt32.size) ∧
      ∃ before after, "\"//😀\",".toList = before ++ c.typed.toList ++ after ∧
        List.Forall₂ (fun a item => Item.Inserts item a 0 "\"//😀\",".toList before after)
          c.candidates (items c) := by
  have hc : (Workspace.empty.insertTarget ⟨["😀", "b"], "x", ""⟩).2.complete [] "\"//😀\"," ⟨0, 4⟩
      (some '/') = some ⟨"//😀", 0, 1, 5, [⟨"//😀/b", "//😀/b", .package⟩]⟩ := by decide +kernel
  have hline : (Text.lines "\"//😀\",")[0]? = some "\"//😀\"," := by decide +kernel
  have hshort : ∀ line ∈ (Text.lines "\"//😀\",")[0]?, Text.width line.toList < UInt32.size := by
    intro line hmem
    obtain rfl := Option.some.inj (hline.symm.trans hmem)
    decide
  obtain ⟨line, before, after, hfound, hparts, _, _, hitems⟩ := items_replace_typed hc hshort
  obtain rfl := Option.some.inj (hline.symm.trans hfound)
  exact ⟨_, hc, rfl, rfl, rfl, rfl, hshort, before, after, hparts, hitems⟩

end Editor

end BuildAtlas
