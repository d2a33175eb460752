import BuildAtlas.Text.Split

/-! # Blank characters

Blank means the Unicode property White_Space. Trimming removes blanks at the ends of a text;
fields are the maximal runs of other characters.
-/
namespace BuildAtlas.Text

/-- The characters with the property White_Space. -/
def isBlank (c : Char) : Bool :=
  let n := c.toNat
  (0x9 ≤ n && n ≤ 0xd) || n == 0x20 || n == 0x85 || n == 0xa0 || n == 0x1680
    || (0x2000 ≤ n && n ≤ 0x200a) || n == 0x2028 || n == 0x2029 || n == 0x202f
    || n == 0x205f || n == 0x3000

def trimStart (cs : List Char) : List Char := cs.dropWhile isBlank

def trimEnd (cs : List Char) : List Char := (cs.reverse.dropWhile isBlank).reverse

def trim (cs : List Char) : List Char := trimEnd (trimStart cs)

/-- A text of which nothing is left after trimming. -/
def allBlank (s : String) : Bool := s.toList.all isBlank

def fields (s : String) : List String := (words isBlank s.toList).map String.ofList

end BuildAtlas.Text
