import BuildAtlas.Proofs.Text.Units
import Mathlib.Data.UInt
import Mathlib.Order.Bounds.Basic

/-! # Exact columns

A column reaches the shortest beginning of a line that is wide enough for it, so its offset is the
least of all seams that are: a column between the two units of a surrogate pair is rounded up to the
end of the character, and a column past the end is cut to the width of the line. Columns are numbers
of 32 bits, which is where the width of a line has to stay below their count.
-/
namespace BuildAtlas.Text

/-! ## The shortest beginning that is wide enough -/

section beginnings
variable {cs before after : List Char} {ch : Char} {column column' : Nat}

theorem byteLength_le_of_prefix (h : before <+: cs) : byteLength before ≤ byteLength cs := by
  obtain ⟨after, rfl⟩ := h
  rw [byteLength_append]
  exact Nat.le_add_right _ _

theorem width_le_of_prefix (h : before <+: cs) : width before ≤ width cs := by
  obtain ⟨after, rfl⟩ := h
  rw [width_append]
  exact Nat.le_add_right _ _

theorem min_width_le_width_takeUnits (column : Nat) (cs : List Char) :
    min column (width cs) ≤ width (takeUnits column cs) := by
  induction cs generalizing column with
  | nil => cases column <;> exact Nat.min_le_right _ _
  | cons c cs ih =>
    cases column with
    | zero => exact Nat.le_of_eq (Nat.zero_min _)
    | succ column =>
      have hrest := ih (column + 1 - units c)
      rw [takeUnits, width, width]
      omega

/-- No beginning that is wide enough ends inside the one that the column reaches. -/
theorem takeUnits_prefix_of_le (h : before <+: cs) (hwide : min column (width cs) ≤ width before) :
    takeUnits column cs <+: before := by
  induction cs generalizing column before with
  | nil => cases column <;> exact List.nil_prefix
  | cons c cs ih =>
    cases column with
    | zero => exact List.nil_prefix
    | succ column =>
      have hpos := units_pos c
      cases before with
      | nil =>
        rw [width, width] at hwide
        omega
      | cons c' before =>
        obtain ⟨rfl, hrest⟩ := List.cons_prefix_cons.mp h
        rw [width, width] at hwide
        have hwide' : min (column + 1 - units c') (width cs) ≤ width before := by omega
        exact List.cons_prefix_cons.mpr ⟨rfl, ih hrest hwide'⟩

theorem takeUnits_prefix_takeUnits (h : column ≤ column') (cs : List Char) :
    takeUnits column cs <+: takeUnits column' cs := by
  have hwide := min_width_le_width_takeUnits column' cs
  have hprefix := takeUnits_prefix column' cs
  exact takeUnits_prefix_of_le hprefix ((min_le_min_right _ h).trans hwide)

/-- A column that lies behind the start of a character but not behind its end reaches its end. -/
theorem takeUnits_eq_of_inside (hcs : cs = before ++ ch :: after) (hlow : width before < column)
    (hhigh : column ≤ width (before ++ [ch])) : takeUnits column cs = before ++ [ch] := by
  have hprefix : before ++ [ch] <+: cs := ⟨after, by simp [hcs]⟩
  have hwidth := width_le_of_prefix hprefix
  have hshort : takeUnits column cs <+: before ++ [ch] :=
    takeUnits_prefix_of_le hprefix ((min_le_left _ _).trans hhigh)
  rcases List.prefix_concat_iff.mp hshort with heq | hbefore
  · exact heq
  · -- It would end before the character, and there the line is too narrow.
    have hnarrow := width_le_of_prefix hbefore
    have hwide := min_width_le_width_takeUnits column cs
    omega

end beginnings

/-! ## Columns of a line -/

/-- The column of the seam behind a text, in the 32 bits that an editor has for it. -/
def columnBehind (before : String) : UInt32 := UInt32.ofNat (width before.toList)

/-- The offsets of the columns of one line. -/
structure ExactColumns (line : String) (offset : UInt32 → Nat) : Prop where
  counted : ∀ before after, line = before ++ after →
    (columnBehind before).toNat = (codeUnits before.toList).length
  valid : ∀ c, (⟨offset c⟩ : String.Pos.Raw).IsValid line ∧ offset c ≤ line.utf8ByteSize
  least : ∀ c, IsLeast {b | ∃ before after, line = before ++ after ∧ before.utf8ByteSize = b ∧
    min c (columnBehind line) ≤ columnBehind before} (offset c)
  /-- Columns inside a character are rounded up to its end. -/
  rounded : ∀ before ch after, line = before ++ String.singleton ch ++ after → ∀ c,
    columnBehind before < c → c ≤ columnBehind (before ++ String.singleton ch) →
      offset c = (before ++ String.singleton ch).utf8ByteSize
  monotone : ∀ c d, c ≤ d → offset c ≤ offset d
  inverse : ∀ before after, line = before ++ after →
    offset (columnBehind before) = before.utf8ByteSize

section columns
variable {line before after : String}

theorem toNat_columnBehind (hline : (codeUnits line.toList).length < UInt32.size)
    (h : line = before ++ after) : (columnBehind before).toNat = width before.toList := by
  refine UInt32.toNat_ofNat_of_lt' (lt_of_le_of_lt ?_ hline)
  rw [length_codeUnits, h, String.toList_append, width_append]
  exact Nat.le_add_right _ _

theorem exists_append_of_prefix {cs : List Char} (h : cs <+: line.toList) :
    ∃ after, line = String.ofList cs ++ after := by
  obtain ⟨rest, hrest⟩ := h
  refine ⟨String.ofList rest, ?_⟩
  rw [← String.ofList_append, hrest, String.ofList_toList]

/-- The text that a column reaches is a beginning of the line and has the offset as its length. -/
theorem exists_reached (line : String) (column : Nat) : ∃ before after, line = before ++ after ∧
    before.toList = takeUnits column line.toList ∧
      before.utf8ByteSize = byteOffset line.toList column := by
  have hprefix := takeUnits_prefix column line.toList
  obtain ⟨after, hafter⟩ := exists_append_of_prefix hprefix
  refine ⟨_, after, hafter, String.toList_ofList, ?_⟩
  rw [← byteLength_toList, String.toList_ofList, byteOffset]

theorem byteOffset_isLeast (hline : (codeUnits line.toList).length < UInt32.size) (c : UInt32) :
    IsLeast {b | ∃ before after, line = before ++ after ∧ before.utf8ByteSize = b ∧
      min c (columnBehind line) ≤ columnBehind before} (byteOffset line.toList c.toNat) := by
  have hwhole : (columnBehind line).toNat = width line.toList :=
    toNat_columnBehind hline String.append_empty.symm
  constructor
  · obtain ⟨before, after, hsplit, hreached, hsize⟩ := exists_reached line c.toNat
    refine ⟨before, after, hsplit, hsize, ?_⟩
    rw [UInt32.le_iff_toNat_le, UInt32.toNat_min, hwhole, toNat_columnBehind hline hsplit, hreached]
    exact min_width_le_width_takeUnits _ _
  · rintro b ⟨before, after, hsplit, rfl, hwide⟩
    rw [UInt32.le_iff_toNat_le, UInt32.toNat_min, hwhole, toNat_columnBehind hline hsplit] at hwide
    have hprefix : before.toList <+: line.toList :=
      ⟨after.toList, by rw [hsplit, String.toList_append]⟩
    rw [← byteLength_toList, byteOffset]
    exact byteLength_le_of_prefix (takeUnits_prefix_of_le hprefix hwide)

/-- In a line of fewer than 2³² units every column has its exact offset. -/
theorem byteOffset_exactColumns (hline : (codeUnits line.toList).length < UInt32.size) :
    ExactColumns line fun c => byteOffset line.toList c.toNat where
  counted before after h := by rw [toNat_columnBehind hline h, length_codeUnits]
  valid c := by
    obtain ⟨before, after, hsplit, _, hsize⟩ := exists_reached line c.toNat
    have hvalid : (⟨byteOffset line.toList c.toNat⟩ : String.Pos.Raw).IsValid line :=
      String.Pos.Raw.isValid_iff_exists_append.mpr ⟨before, after, hsplit, by rw [← hsize]; rfl⟩
    exact ⟨hvalid, hvalid.le_utf8ByteSize⟩
  least := byteOffset_isLeast hline
  rounded before ch after h c hlow hhigh := by
    have hparts : line.toList = before.toList ++ ch :: after.toList := by simp [h]
    rw [UInt32.lt_iff_toNat_lt, toNat_columnBehind hline (h.trans String.append_assoc)] at hlow
    rw [UInt32.le_iff_toNat_le, toNat_columnBehind hline h, String.toList_append,
      String.toList_singleton] at hhigh
    rw [byteOffset, takeUnits_eq_of_inside hparts hlow hhigh, ← byteLength_toList,
      String.toList_append, String.toList_singleton]
  monotone c d h :=
    byteLength_le_of_prefix (takeUnits_prefix_takeUnits (UInt32.le_iff_toNat_le.mp h) _)
  inverse before after h := by
    rw [toNat_columnBehind hline h, ← byteLength_toList, h, String.toList_append,
      byteOffset_width]

/-- A letter of two bytes and one unit, then a character of four bytes and two units. -/
theorem byteOffset_exactColumns_emoji :
    (codeUnits "é😀\"//".toList).length < UInt32.size ∧
      ExactColumns "é😀\"//" (fun c => byteOffset "é😀\"//".toList c.toNat) ∧
      [0, 1, 2, 3, 4, 9].map (byteOffset "é😀\"//".toList) = [0, 2, 6, 6, 7, 9] := by
  have hline : (codeUnits "é😀\"//".toList).length < UInt32.size := by decide
  exact ⟨hline, byteOffset_exactColumns hline, by decide⟩

end columns

end BuildAtlas.Text
