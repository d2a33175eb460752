import BuildAtlas.Text.Units

/-! # Columns and offsets at the seams of a line

A line that is put together from two pieces has a seam. Its column is the width of the first
piece and its offset the length of the first piece, and both lead back to the seam: no character
is cut, whatever its size in units and bytes. Widths and lengths are those of the encodings.
-/
namespace BuildAtlas.Text

/-- The UTF-16 units of a character, a surrogate pair outside the basic plane. -/
def charUnits (c : Char) : List Nat :=
  if c.toNat < 0x10000 then [c.toNat]
  else [0xD800 + (c.toNat - 0x10000) / 0x400, 0xDC00 + (c.toNat - 0x10000) % 0x400]

def codeUnits (cs : List Char) : List Nat := cs.flatMap charUnits

theorem length_charUnits (c : Char) : (charUnits c).length = units c := by
  rw [charUnits, units]
  split <;> rfl

theorem units_pos (c : Char) : 0 < units c := by
  rw [units]
  split <;> decide

theorem codeUnits_append (before after : List Char) :
    codeUnits (before ++ after) = codeUnits before ++ codeUnits after := List.flatMap_append

theorem length_codeUnits (cs : List Char) : (codeUnits cs).length = width cs := by
  induction cs with
  | nil => rfl
  | cons c cs ih =>
    rw [codeUnits, List.flatMap_cons, List.length_append, length_charUnits, width, ← ih, codeUnits]

example : codeUnits ['é', '😀'] = [0xE9, 0xD83D, 0xDE00] := by decide

theorem width_append (before after : List Char) :
    width (before ++ after) = width before + width after := by
  rw [← length_codeUnits, codeUnits_append, List.length_append, length_codeUnits, length_codeUnits]

theorem byteLength_eq_size (cs : List Char) : byteLength cs = cs.utf8Encode.size := by
  induction cs with
  | nil => rfl
  | cons c cs ih =>
    rw [byteLength, ih, List.utf8Encode_cons, ByteArray.size_append, List.utf8Encode_singleton]
    simp

theorem byteLength_toList (s : String) : byteLength s.toList = s.utf8ByteSize := by
  rw [byteLength_eq_size, String.utf8Encode_toList, String.size_toByteArray]

theorem byteLength_append (before after : List Char) :
    byteLength (before ++ after) = byteLength before + byteLength after := by
  simp only [byteLength_eq_size, List.utf8Encode_append, ByteArray.size_append]

/-- The bytes of a text in UTF-8. -/
def utf8 (cs : List Char) : List UInt8 := cs.flatMap String.utf8EncodeChar

theorem toList_toByteArray (s : String) : s.toByteArray.data.toList = utf8 s.toList := by
  have hbytes : (utf8 s.toList).toByteArray = s.toByteArray := String.utf8Encode_toList
  rw [← hbytes, List.toList_data_toByteArray]

theorem utf8_concat (cs : List Char) (c : Char) :
    utf8 (cs ++ [c]) = utf8 cs ++ String.utf8EncodeChar c := by
  rw [utf8, List.flatMap_append, List.flatMap_singleton, utf8]

theorem length_utf8 (cs : List Char) : (utf8 cs).length = byteLength cs := by
  induction cs with
  | nil => rfl
  | cons c cs ih =>
    rw [utf8, List.flatMap_cons, List.length_append, String.length_utf8EncodeChar, byteLength, ← ih,
      utf8]

/-- A byte below 128 is the whole of its character. -/
theorem utf8EncodeChar_eq_of_mem {c : Char} {b : UInt8} (hb : b ∈ String.utf8EncodeChar c)
    (hlow : b.toNat < 128) : String.utf8EncodeChar c = [b] ∧ c.toNat = b.toNat := by
  have hbyte : ∀ n, b = UInt8.ofNat n → n < 128 ∨ 256 ≤ n := by
    rintro n rfl
    rw [UInt8.toNat_ofNat'] at hlow
    omega
  rw [String.utf8EncodeChar] at hb ⊢
  split at hb
  · rename_i hone
    obtain rfl := List.mem_singleton.mp hb
    refine ⟨if_pos hone, ?_⟩
    rw [UInt8.toNat_ofNat', Nat.mod_eq_of_lt (Nat.lt_of_le_of_lt hone (by decide))]
    rfl
  · -- all bytes of a longer character lie above
    exfalso
    split at hb
    · simp only [List.mem_cons, List.not_mem_nil, or_false] at hb
      rcases hb with h | h <;> have := hbyte _ h <;> omega
    · split at hb <;> simp only [List.mem_cons, List.not_mem_nil, or_false] at hb
      · rcases hb with h | h | h <;> have := hbyte _ h <;> omega
      · rcases hb with h | h | h | h <;> have := hbyte _ h <;> omega

/-- No byte of another character is taken for a character that has one byte below 128. -/
theorem eq_of_mem_utf8EncodeChar {c d : Char} {b : UInt8} (hd : String.utf8EncodeChar d = [b])
    (hlow : b.toNat < 128) (hb : b ∈ String.utf8EncodeChar c) : c = d := by
  have hdb : b ∈ String.utf8EncodeChar d := hd ▸ List.mem_singleton_self b
  have hsame := (utf8EncodeChar_eq_of_mem hb hlow).2.trans (utf8EncodeChar_eq_of_mem hdb hlow).2.symm
  exact Char.toNat_inj.mp hsame

theorem takeUnits_prefix (column : Nat) (cs : List Char) : takeUnits column cs <+: cs := by
  induction cs generalizing column with
  | nil => cases column <;> exact List.prefix_rfl
  | cons c cs ih =>
    cases column with
    | zero => exact List.nil_prefix
    | succ column => exact List.cons_prefix_cons.mpr ⟨rfl, ih _⟩

theorem takeUnits_width (before after : List Char) :
    takeUnits (width before) (before ++ after) = before := by
  induction before with
  | nil => simp [width, takeUnits]
  | cons c before ih =>
    have hpos : 0 < width (c :: before) := Nat.add_pos_left (units_pos c) _
    obtain ⟨k, hk⟩ := Nat.exists_eq_succ_of_ne_zero (Nat.ne_of_gt hpos)
    have hrest : k + 1 - units c = width before := by
      rw [width] at hk
      omega
    rw [hk, List.cons_append, takeUnits, hrest, ih]

theorem byteOffset_width (before after : List Char) :
    byteOffset (before ++ after) (width before) = byteLength before := by
  rw [byteOffset, takeUnits_width]

end BuildAtlas.Text
