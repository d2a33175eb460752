/-! # Bytes

Programs exchange bytes. Here a byte is the character of its number, and a run of bytes a
string of such characters. Reading bytes as a text puts one replacement character for every
stretch that begins like an encoded character and does not end like one.
-/
namespace BuildAtlas.Text

def encodeChar (c : Char) : List Char :=
  let n := c.toNat
  let tail (shift : Nat) : Char := Char.ofNat (0x80 + n >>> shift % 0x40)
  if n < 0x80 then [c]
  else if n < 0x800 then [Char.ofNat (0xc0 + n / 0x40), tail 0]
  else if n < 0x10000 then [Char.ofNat (0xe0 + n / 0x1000), tail 6, tail 0]
  else [Char.ofNat (0xf0 + n / 0x40000), tail 12, tail 6, tail 0]

/-- The bytes of a text. -/
def encode (s : String) : String := String.ofList (s.toList.flatMap encodeChar)

def ofBytes (bytes : ByteArray) : String :=
  String.ofList (bytes.toList.map fun b => Char.ofNat b.toNat)

def toBytes (bytes : String) : ByteArray :=
  bytes.foldl (fun out c => out.push c.toNat.toUInt8) .empty

def replacement : Char := '\ufffd'

/-- A character under way: its value so far, the bytes it still lacks, and the range in which
the next one must lie. -/
structure Partial where
  value : Nat
  lacking : Nat
  low : Nat := 0x80
  high : Nat := 0xbf

/-- What a byte begins: a whole character, a longer one, or nothing. -/
def leadByte (b : Nat) : Except Char Partial :=
  if b < 0x80 then .error (Char.ofNat b)
  else if 0xc2 ≤ b ∧ b ≤ 0xdf then .ok { value := b - 0xc0, lacking := 1 }
  else if b = 0xe0 then .ok { value := 0, lacking := 2, low := 0xa0 }
  else if b = 0xed then .ok { value := 0xd, lacking := 2, high := 0x9f }
  else if 0xe1 ≤ b ∧ b ≤ 0xef then .ok { value := b - 0xe0, lacking := 2 }
  else if b = 0xf0 then .ok { value := 0, lacking := 3, low := 0x90 }
  else if b = 0xf4 then .ok { value := 4, lacking := 3, high := 0x8f }
  else if 0xf1 ≤ b ∧ b ≤ 0xf3 then .ok { value := b - 0xf0, lacking := 3 }
  else .error replacement

/-- Read the bytes of a text; `rev` is the text so far, last character first. -/
def decodeFrom (rev : List Char) (under : Option Partial) : List Char → List Char
  | [] => (if under.isSome then replacement :: rev else rev).reverse
  | b :: bs =>
    let begin (rev : List Char) : List Char × Option Partial :=
      match leadByte b.toNat with
      | .ok part => (rev, some part)
      | .error c => (c :: rev, none)
    let next : List Char × Option Partial :=
      match under with
      | none => begin rev
      | some part =>
        if part.low ≤ b.toNat ∧ b.toNat ≤ part.high then
          let value := part.value * 0x40 + (b.toNat - 0x80)
          if part.lacking = 1 then (Char.ofNat value :: rev, none)
          else (rev, some { value, lacking := part.lacking - 1 })
        else begin (replacement :: rev)
    decodeFrom next.1 next.2 bs

/-- The text of a run of bytes. -/
def decode (bytes : String) : String := String.ofList (decodeFrom [] none bytes.toList)

end BuildAtlas.Text
