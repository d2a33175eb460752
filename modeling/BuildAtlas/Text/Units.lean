/-! # Columns and byte offsets

Editors count columns in UTF-16 units, the index counts bytes of UTF-8. A column is turned
into the part of the line that it reaches; the part's byte length is the offset. A column
inside a surrogate pair reaches the whole character, and one past the end the whole line.
-/
namespace BuildAtlas.Text

/-- UTF-16 units of one character. -/
def units (c : Char) : Nat := if c.toNat < 0x10000 then 1 else 2

/-- Width of a text in UTF-16 units. -/
def width : List Char → Nat
  | [] => 0
  | c :: cs => units c + width cs

/-- Length of a text in bytes of UTF-8. -/
def byteLength : List Char → Nat
  | [] => 0
  | c :: cs => c.utf8Size + byteLength cs

/-- The shortest beginning of a line that is at least `column` units wide. -/
def takeUnits : Nat → List Char → List Char
  | 0, _ => []
  | _, [] => []
  | column + 1, c :: cs => c :: takeUnits (column + 1 - units c) cs

def byteOffset (line : List Char) (column : Nat) : Nat := byteLength (takeUnits column line)

end BuildAtlas.Text
