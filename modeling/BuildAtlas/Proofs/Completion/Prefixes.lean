import BuildAtlas.Proofs.Completion.Literals
import BuildAtlas.Proofs.Text.Units
import Mathlib.Algebra.Group.Nat.Even
import Mathlib.Data.List.DropRight

/-! # Where the typed text begins

The text typed at a cursor is what follows the last quote that has an even run of backslashes in
front of it. The bytes of the line lead to the same place when they are gone through from the end:
quotes and backslashes are single bytes, no byte of another character is taken for one of them, and
so the place behind a quote is a seam between characters.
-/
namespace BuildAtlas.Completion
variable {cs front typed opening : List Char} {c quote : Char} {text : String} {start i : Nat}
  {bs more : List UInt8} {b : UInt8}

/-- How many backslashes stand in a row at the end of a text. -/
def backslashes (cs : List Char) : Nat := (cs.rtakeWhile (· == '\\')).length

/-- The last character is a quote, with an even run of backslashes in front of it. -/
def EndsInQuote (front : List Char) : Prop :=
  ∃ opening quote, front = opening ++ [quote] ∧ isQuote quote = true ∧ Even (backslashes opening)

/-- The typed text is what follows the longest beginning of a text that ends in a quote. -/
def FollowsLastQuote (text : List Char) (start : Nat) (typed : List Char) : Prop :=
  ∃ front, text = front ++ typed ∧ Text.byteLength front = start ∧ EndsInQuote front ∧
    ∀ other, other <+: text → EndsInQuote other → other <+: front

/-! ## Characters -/

theorem backslashes_concat (cs : List Char) (c : Char) :
    backslashes (cs ++ [c]) = if c = '\\' then backslashes cs + 1 else 0 := by
  rw [backslashes, List.rtakeWhile_concat]
  by_cases hc : c = '\\'
  · simp [hc, backslashes]
  · simp [hc]

theorem oddRun_eq_false_iff : oddRun false cs = false ↔ Even (backslashes cs) := by
  induction cs using List.reverseRecOn with
  | nil => simp [oddRun, backslashes]
  | append_singleton cs c ih =>
    rw [oddRun_concat, backslashes_concat]
    by_cases hc : c = '\\'
    · rw [if_pos hc, Nat.even_add_one, ← ih]
      simp [hc]
    · simp [hc]

theorem endsInQuote_concat :
    EndsInQuote (cs ++ [c]) ↔ isQuote c = true ∧ oddRun false cs = false := by
  constructor
  · rintro ⟨opening, quote, heq, hquote, heven⟩
    obtain ⟨rfl, hc⟩ := List.append_inj' heq rfl
    obtain rfl := List.singleton_inj.mp hc
    exact ⟨hquote, oddRun_eq_false_iff.mpr heven⟩
  · rintro ⟨hquote, heven⟩
    exact ⟨cs, c, rfl, hquote, oddRun_eq_false_iff.mp heven⟩

theorem afterLastQuote_eq_none_iff_prefix :
    afterLastQuote false cs = none ↔ ∀ front, front <+: cs → ¬ EndsInQuote front := by
  rw [afterLastQuote_eq_none_iff]
  constructor
  · rintro hall _ ⟨rest, rfl⟩ ⟨opening, quote, rfl, hquote, heven⟩
    have hodd := hall opening quote rest (by simp) hquote
    rw [oddRun_eq_false_iff.mpr heven] at hodd
    cases hodd
  · rintro hall passed q rest rfl hquote
    have hnot := hall (passed ++ [q]) ⟨rest, by simp⟩
    rw [endsInQuote_concat] at hnot
    simpa [hquote] using hnot

theorem LastQuote.prefix_of_endsInQuote (h : LastQuote cs opening quote typed)
    (hfront : front <+: cs) (hends : EndsInQuote front) : front <+: opening ++ [quote] := by
  have hcs : opening ++ [quote] <+: cs := ⟨typed, by simp [h.split]⟩
  rcases List.prefix_or_prefix_of_prefix hfront hcs with hshort | ⟨passed, rfl⟩
  · exact hshort
  · obtain ⟨rest, hrest⟩ := hfront
    have htyped : typed = passed ++ rest := by simpa [h.split] using hrest.symm
    rcases List.eq_nil_or_concat passed with rfl | ⟨passed, q, rfl⟩
    · simp
    · -- a quote further on has an odd run in front of it
      rw [List.concat_eq_append, ← List.append_assoc] at hends
      obtain ⟨hquote, heven⟩ := endsInQuote_concat.mp hends
      rw [List.append_assoc, List.singleton_append, oddRun_append_quote h.isQuote] at heven
      have hodd := h.last passed q rest (by simp [htyped]) hquote
      rw [heven] at hodd
      cases hodd

theorem labelPrefix_eq_some_iff :
    labelPrefix cs = some (start, typed) ↔ FollowsLastQuote cs start typed := by
  rw [labelPrefix, Option.map_eq_some_iff]
  constructor
  · rintro ⟨found, hfound, heq⟩
    obtain ⟨rfl, rfl⟩ := Prod.mk.inj heq
    obtain ⟨opening, quote, h⟩ := afterLastQuote_iff_lastQuote.mp hfound
    have hends : EndsInQuote (opening ++ [quote]) :=
      endsInQuote_concat.mpr ⟨h.isQuote, h.unescaped⟩
    have hcs : cs = (opening ++ [quote]) ++ found := by simp [h.split]
    refine ⟨opening ++ [quote], hcs, ?_, hends, fun _ => h.prefix_of_endsInQuote⟩
    rw [hcs, Text.byteLength_append (opening ++ [quote]), Nat.add_sub_cancel_right]
  · rintro ⟨front, rfl, rfl, hends, hlast⟩
    obtain ⟨opening, quote, rfl, hquote, heven⟩ := hends
    refine ⟨typed, afterLastQuote_iff_lastQuote.mpr ⟨opening, quote, by simp, hquote,
      oddRun_eq_false_iff.mpr heven, fun passed q rest htyped hq => ?_⟩, ?_⟩
    · by_contra hodd
      rw [Bool.not_eq_true] at hodd
      have hends : EndsInQuote ((opening ++ [quote] ++ passed) ++ [q]) := by
        rw [endsInQuote_concat, List.append_assoc, List.singleton_append,
          oddRun_append_quote hquote]
        exact ⟨hq, hodd⟩
      have hlong := (hlast _ ⟨rest, by simp [htyped]⟩ hends).length_le
      simp only [List.length_append, List.length_singleton] at hlong
      omega
    · rw [Text.byteLength_append, Nat.add_sub_cancel_right]

theorem afterLastQuote_concat (odd : Bool) (cs : List Char) (c : Char) :
    afterLastQuote odd (cs ++ [c]) = if isQuote c && !oddRun odd cs then some []
      else (afterLastQuote odd cs).map (· ++ [c]) := by
  induction cs generalizing odd with
  | nil => cases hq : isQuote c && !odd <;> simp [afterLastQuote, oddRun, hq]
  | cons d cs ih =>
    rw [List.cons_append, afterLastQuote, ih, afterLastQuote, oddRun_cons]
    cases isQuote c && !oddRun (d == '\\' && !odd) cs with
    | true => rfl
    | false =>
      cases afterLastQuote (d == '\\' && !odd) cs with
      | none => cases isQuote d && !odd <;> rfl
      | some typed => rfl

theorem fst_labelPrefix_concat (cs : List Char) (c : Char) :
    (labelPrefix (cs ++ [c])).map (·.1) = if isQuote c && !oddRun false cs
      then some (Text.byteLength (cs ++ [c])) else (labelPrefix cs).map (·.1) := by
  rw [labelPrefix, afterLastQuote_concat, labelPrefix]
  split
  · rfl
  · rw [Option.map_map, Option.map_map, Option.map_map]
    congr 1
    funext typed
    simp only [Function.comp_apply, Text.byteLength_append, Nat.add_sub_add_right]

theorem oddRun_eq_beq (cs : List Char) : oddRun false cs = (backslashes cs % 2 == 1) := by
  rw [Bool.eq_iff_iff, beq_iff_eq, ← Nat.not_even_iff, ← oddRun_eq_false_iff, Bool.not_eq_false]

/-! ## Bytes -/

theorem escapedAt_eq (bs : List UInt8) (i : Nat) :
    escapedAt bs i = (((bs.take i).rtakeWhile (· == 0x5c)).length % 2 == 1) := by
  rw [escapedAt, List.rtakeWhile, List.length_reverse]

theorem scanBack_append (h : i ≤ bs.length) : scanBack (bs ++ more) i = scanBack bs i := by
  induction i with
  | zero => rfl
  | succ i ih =>
    rw [scanBack, scanBack, List.getElem?_append_left h, escapedAt, escapedAt,
      List.take_append_of_le_length (Nat.le_of_succ_le h), ih (Nat.le_of_succ_le h)]

theorem scanBack_concat (bs : List UInt8) (b : UInt8) :
    scanBack (bs ++ [b]) (bs ++ [b]).length =
      if isQuoteByte b && !((bs.rtakeWhile (· == 0x5c)).length % 2 == 1)
      then some (bs ++ [b]).length else scanBack bs bs.length := by
  rw [List.length_append, List.length_singleton, scanBack, scanBack_append Nat.le.refl, escapedAt_eq,
    List.take_left, List.getElem?_concat_length, Option.any_some]

theorem scanBack_append_of_noQuote (h : ∀ b ∈ more, isQuoteByte b = false) :
    scanBack (bs ++ more) (bs ++ more).length = scanBack bs bs.length := by
  induction more using List.reverseRecOn with
  | nil => rw [List.append_nil]
  | append_singleton more b ih =>
    rw [List.forall_mem_append, List.forall_mem_singleton] at h
    rw [← List.append_assoc, scanBack_concat, h.2, Bool.false_and, if_neg Bool.false_ne_true, ih h.1]

theorem utf8EncodeChar_of_isQuote (h : isQuote c = true) :
    ∃ b, String.utf8EncodeChar c = [b] ∧ isQuoteByte b = true := by
  have hkinds : c = '"' ∨ c = '\'' := by simpa [isQuote] using h
  rcases hkinds with rfl | rfl
  · exact ⟨0x22, by decide, rfl⟩
  · exact ⟨0x27, by decide, rfl⟩

theorem isQuoteByte_of_mem (h : isQuote c = false) (hb : b ∈ String.utf8EncodeChar c) :
    isQuoteByte b = false := by
  rw [Bool.eq_false_iff]
  intro hquote
  rw [isQuoteByte, Bool.or_eq_true, beq_iff_eq, beq_iff_eq] at hquote
  rcases hquote with rfl | rfl
  · obtain rfl : c = '"' := Text.eq_of_mem_utf8EncodeChar (by decide) (by decide) hb
    cases h
  · obtain rfl : c = '\'' := Text.eq_of_mem_utf8EncodeChar (by decide) (by decide) hb
    cases h

theorem length_rtakeWhile_utf8 (cs : List Char) :
    ((Text.utf8 cs).rtakeWhile (· == 0x5c)).length = backslashes cs := by
  induction cs using List.reverseRecOn with
  | nil => rfl
  | append_singleton cs c ih =>
    have hbyte : String.utf8EncodeChar '\\' = [0x5c] := by decide
    rw [Text.utf8_concat, backslashes_concat]
    by_cases hc : c = '\\'
    · rw [if_pos hc, hc, hbyte, List.rtakeWhile_concat, if_pos (beq_self_eq_true _),
        List.length_append, ih, List.length_singleton]
    · rcases List.eq_nil_or_concat (String.utf8EncodeChar c) with hnil | ⟨before, b, hbytes⟩
      · exact absurd hnil String.utf8EncodeChar_ne_nil
      · -- the last byte alone decides that the run is broken off
        rw [List.concat_eq_append] at hbytes
        have hb : (b == 0x5c) = false := by
          rw [beq_eq_false_iff_ne]
          rintro rfl
          exact hc (Text.eq_of_mem_utf8EncodeChar hbyte (by decide) (by simp [hbytes]))
        rw [if_neg hc, hbytes, ← List.append_assoc, List.rtakeWhile_concat, hb]
        rfl

theorem scanBack_utf8 (cs : List Char) :
    scanBack (Text.utf8 cs) (Text.utf8 cs).length = (labelPrefix cs).map (·.1) := by
  -- The scan takes the last character first: a quote is one byte, and from the bytes of any other
  -- character it goes on to those of the text before.
  induction cs using List.reverseRecOn with
  | nil => rfl
  | append_singleton cs c ih =>
    rw [fst_labelPrefix_concat, ← ih]
    cases hc : isQuote c with
    | true =>
      obtain ⟨b, hbytes, hb⟩ := utf8EncodeChar_of_isQuote hc
      rw [← Text.length_utf8, Text.utf8_concat, hbytes, scanBack_concat, hb,
        length_rtakeWhile_utf8, oddRun_eq_beq]
    | false =>
      rw [Bool.false_and, if_neg Bool.false_ne_true, Text.utf8_concat]
      exact scanBack_append_of_noQuote fun b => isQuoteByte_of_mem hc

/-! ## The prefix -/

/-- What is found is a whole end of the text: no character is cut. -/
theorem FollowsLastQuote.slice (h : FollowsLastQuote text.toList start typed) :
    (⟨start⟩ : String.Pos.Raw).IsValid text ∧
      text.toByteArray.extract start text.utf8ByteSize = (String.ofList typed).toByteArray := by
  obtain ⟨front, hsplit, hstart, -⟩ := h
  have htext : text = String.ofList front ++ String.ofList typed := by
    rw [← String.ofList_append, ← hsplit, String.ofList_toList]
  have hsize : start = (String.ofList front).utf8ByteSize := by
    rw [← Text.byteLength_toList, String.toList_ofList, hstart]
  rw [htext, hsize]
  constructor
  · exact String.Pos.Raw.isValid_iff_exists_append.mpr ⟨_, _, rfl, rfl⟩
  · rw [String.toByteArray_append, String.utf8ByteSize_append]
    exact ByteArray.extract_append_eq_right rfl rfl

/-- The typed text is found behind the last unescaped quote, at the byte where it begins, and going
back through the bytes finds the same byte. Nothing is found just where there is no such quote. -/
theorem labelPrefix_follows_last_quote (text : String) :
    (labelPrefix text.toList = none ↔ ∀ front, front <+: text.toList → ¬ EndsInQuote front) ∧
    (∀ start typed, labelPrefix text.toList = some (start, typed) ↔
      FollowsLastQuote text.toList start typed) ∧
    (∀ start typed, labelPrefix text.toList = some (start, typed) →
      (⟨start⟩ : String.Pos.Raw).IsValid text ∧
        text.toByteArray.extract start text.utf8ByteSize = (String.ofList typed).toByteArray) ∧
    scanBack text.toByteArray.data.toList text.utf8ByteSize =
      (labelPrefix text.toList).map (·.1) := by
  refine ⟨?_, fun start typed => labelPrefix_eq_some_iff,
    fun start typed h => (labelPrefix_eq_some_iff.mp h).slice, ?_⟩
  · rw [labelPrefix, Option.map_eq_none_iff, afterLastQuote_eq_none_iff_prefix]
  · rw [Text.toList_toByteArray, ← Text.byteLength_toList, ← Text.length_utf8, scanBack_utf8]

example : labelPrefix ['é', '"', '\\', '"', 'x'] = some (3, ['\\', '"', 'x']) := by decide

end BuildAtlas.Completion
