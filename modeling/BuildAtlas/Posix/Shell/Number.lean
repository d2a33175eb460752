import BuildAtlas.Posix.Shell.Syntax

/-! # Numbers in texts

Integers of 64 bits. Digits that say more stand for the nearest integer there is, and that they
did is told.
-/
namespace BuildAtlas.Posix.Shell.Number

def least : Int := -9223372036854775808

def greatest : Int := 9223372036854775807

def isBlank (c : Char) : Bool := c = ' ' || ('\t' ≤ c && c ≤ '\r')

def digit? (base : Nat) (c : Char) : Option Nat :=
  let value :=
    if isDigit c then c.toNat - '0'.toNat
    else if 'a' ≤ c && c ≤ 'z' then c.toNat - 'a'.toNat + 10
    else if 'A' ≤ c && c ≤ 'Z' then c.toNat - 'A'.toNat + 10
    else base
  if value < base then some value else none

/-- The value of the digits that a text begins with, and the text after them. -/
def digits (base : Nat) (value : Nat) : List Char → Nat × List Char
  | [] => (value, [])
  | c :: cs =>
    match digit? base c with
    | some d => digits base (value * base + d) cs
    | none => (value, c :: cs)

/-- A number at the beginning of a text. -/
structure Scan where
  value : Int
  outOfRange : Bool
  rest : List Char
  deriving DecidableEq, Repr

def isHexDigit (c : Char) : Bool := (digit? 16 c).isSome

/-- The base that the digits of a number have, and these digits. -/
def baseOf (cs : List Char) : Nat × List Char :=
  match cs with
  | '0' :: x :: d :: rest =>
    if (x = 'x' || x = 'X') && isHexDigit d then (16, d :: rest) else (8, cs)
  | '0' :: _ => (8, cs)
  | _ => (10, cs)

/-- Read a sign and digits; the base is ten or, if none is fixed, what they say themselves. -/
def scanSigned (fixed : Bool) (cs : List Char) : Option Scan :=
  let (negative, cs) :=
    match cs with
    | '-' :: cs => (true, cs)
    | '+' :: cs => (false, cs)
    | cs => (false, cs)
  let (base, cs) := if fixed then (10, cs) else baseOf cs
  match cs with
  | [] => none
  | c :: _ =>
    if (digit? base c).isNone then none
    else
      let (n, rest) := digits base 0 cs
      let signed : Int := if negative then -(n : Int) else n
      let value := max least (min greatest signed)
      some { value, outOfRange := value != signed, rest }

/-- Read a number after blanks; without one nothing has been read. -/
def scan (fixed : Bool) (cs : List Char) : Option Scan := scanSigned fixed (cs.dropWhile isBlank)

/-- The number that a text is, with blanks around it. A text without any digit counts as zero
where the base is not fixed. -/
def read? (fixed : Bool) (text : String) : Option Int :=
  match scan fixed text.toList with
  | some s => if s.outOfRange || !(s.rest.all isBlank) then none else some s.value
  | none => if fixed || !(text.toList.all isBlank) then none else some 0

/-- A count, which has 31 bits. -/
def count? (text : String) : Option Nat :=
  match read? true text with
  | some n => if 0 ≤ n ∧ n < 2147483648 then some n.toNat else none
  | none => none

def illegal (text : String) : String := "Illegal number: " ++ text

end BuildAtlas.Posix.Shell.Number
