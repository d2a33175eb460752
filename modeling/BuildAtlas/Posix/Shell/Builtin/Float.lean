import BuildAtlas.Posix.Shell.Number

/-! # Floating point numbers in texts

Numbers of 53 binary digits, read from texts and written with as many decimal or hexadecimal
digits as wanted. All is rounded to the nearest, of two to the even one, and is exact but for that.
-/
namespace BuildAtlas.Posix.Shell

inductive Float64 where
  /-- A significand times a power of two. -/
  | finite (negative : Bool) (significand : Nat) (exponent : Int)
  | infinite (negative : Bool)
  | nan (negative : Bool)
  deriving DecidableEq, Repr

namespace Float64

def isNegative : Float64 → Bool
  | finite negative _ _ | infinite negative | nan negative => negative

/-! ## Rounding -/

/-- A quotient rounded to the nearest integer, and whether it is one exactly. -/
def divideRounded (n d : Nat) : Nat × Bool :=
  let q := n / d
  let r := n % d
  let up := 2 * r > d || (2 * r = d && q % 2 = 1)
  (if up then q + 1 else q, r = 0)

def power (b n : Nat) : Nat := Nat.pow b n

/-- A quotient times a power of a base, as a quotient again. -/
def scale (n d b : Nat) (e : Int) : Nat × Nat :=
  if e ≥ 0 then (n * power b e.toNat, d) else (n, d * power b (-e).toNat)

def leastExponent : Int := -1074

/-- The nearest number to a quotient, and whether that is too large or too small. -/
def ofQuotient (negative : Bool) (n d : Nat) : Float64 × Bool :=
  if n = 0 then (finite negative 0 0, false)
  else
    let guess : Int := (n.log2 : Int) - d.log2 - 53
    let exponent := max guess leastExponent
    let (a, b) := scale n d 2 (-exponent)
    let wide := a / b ≥ power 2 53
    let exponent := if wide then exponent + 1 else exponent
    let (a, b) := if wide then (a, b * 2) else (a, b)
    let (significand, exact) := divideRounded a b
    if significand * power 2 (exponent + 1100).toNat ≥ power 2 (1024 + 1100) then
      (infinite negative, true)
    else (finite negative significand exponent, significand < power 2 52 && !exact)

/-! ## Reading -/

/-- Digits of a number with a point in it, as an integer, how many of them follow the point, how
many there are, and what comes after them. -/
def readDigits (base : Nat) (cs : List Char) : Nat × Nat × Nat × List Char :=
  let (whole, rest) := Number.digits base 0 cs
  let wholeCount := cs.length - rest.length
  match rest with
  | '.' :: more =>
    let (all, after) := Number.digits base whole more
    let places := more.length - after.length
    if wholeCount + places = 0 then (0, 0, 0, cs) else (all, places, wholeCount + places, after)
  | rest => (whole, 0, wholeCount, rest)

/-- An exponent after one of two letters. -/
def readExponent (small large : Char) (cs : List Char) : Int × List Char :=
  match cs with
  | c :: rest =>
    if c = small || c = large then
      let (negative, digits) :=
        match rest with
        | '-' :: rest => (true, rest)
        | '+' :: rest => (false, rest)
        | rest => (false, rest)
      if (digits.head?.any isDigit) then
        let (n, after) := Number.digits 10 0 digits
        (if negative then -(n : Int) else n, after)
      else (0, cs)
    else (0, cs)
  | [] => (0, cs)

/-- Exponents beyond this make no difference any more. -/
def exponentLimit : Int := 100000

def clamp (e : Int) : Int := max (-exponentLimit) (min exponentLimit e)

def lower (c : Char) : Char := if 'A' ≤ c && c ≤ 'Z' then Char.ofNat (c.toNat + 32) else c

/-- What follows a word at the beginning of a text, written in either case. -/
def afterWord (word : String) (cs : List Char) : Option (List Char) :=
  let n := word.length
  if (cs.take n).map lower = word.toList then some (cs.drop n) else none

/-- What may stand in parentheses after a number that is none. -/
def afterNan (cs : List Char) : List Char :=
  match cs with
  | '(' :: rest =>
    match rest.dropWhile isNamePart with
    | ')' :: after => after
    | _ => cs
  | cs => cs

structure Scan where
  value : Float64
  outOfRange : Bool
  rest : List Char

def scanUnsigned (negative : Bool) (cs : List Char) : Option Scan :=
  match afterWord "infinity" cs <|> afterWord "inf" cs, afterWord "nan" cs with
  | some rest, _ => some ⟨infinite negative, false, rest⟩
  | none, some rest => some ⟨nan negative, false, afterNan rest⟩
  | none, none =>
    let hex :=
      match afterWord "0x" cs with
      | some digits =>
        let (n, places, count, rest) := readDigits 16 digits
        if count = 0 then none else some (n, places, rest)
      | none => none
    match hex with
    | some (n, places, rest) =>
      let (e, rest) := readExponent 'p' 'P' rest
      let (a, b) := scale n 1 2 (clamp (e - 4 * places))
      let (value, outOfRange) := ofQuotient negative a b
      some ⟨value, outOfRange, rest⟩
    | none =>
      let (n, places, count, rest) := readDigits 10 cs
      if count = 0 then none
      else
        let (e, rest) := readExponent 'e' 'E' rest
        let e := e - places
        if n = 0 then some ⟨finite negative 0 0, false, rest⟩
        else if e + count > 400 && e + (Nat.toDigits 10 n).length > 310 then
          some ⟨infinite negative, true, rest⟩
        else if e + count < -400 then some ⟨finite negative 0 0, true, rest⟩
        else
          let (a, b) := scale n 1 10 e
          let (value, outOfRange) := ofQuotient negative a b
          some ⟨value, outOfRange, rest⟩

/-- Read a number after blanks. -/
def scan (cs : List Char) : Option Scan :=
  match cs.dropWhile Number.isBlank with
  | '-' :: cs => scanUnsigned true cs
  | '+' :: cs => scanUnsigned false cs
  | cs => scanUnsigned false cs

/-! ## Writing -/

/-- Digits with a point before the last of them. -/
def withPoint (places : Nat) (always : Bool) (digits : List Char) : List Char :=
  let padded := List.replicate (places + 1 - digits.length) '0' ++ digits
  let whole := padded.take (padded.length - places)
  let fraction := padded.drop (padded.length - places)
  if places = 0 then (if always then whole ++ ['.'] else whole) else whole ++ '.' :: fraction

/-- A number with so many digits after the point. -/
def fixedDigits (significand : Nat) (exponent : Int) (places : Nat) : List Char :=
  let (a, b) := scale significand 1 2 exponent
  Nat.toDigits 10 (divideRounded (a * power 10 places) b).1

/-- The power of ten of the first digit of a quotient. -/
def leadingPower (a b : Nat) : Int :=
  let guess : Int := ((Nat.toDigits 10 a).length : Int) - (Nat.toDigits 10 b).length
  let (x, y) := scale a b 10 (-guess)
  if x ≥ y then guess else guess - 1

/-- So many significant digits and the power of ten of the first. -/
def significantDigits (significand : Nat) (exponent : Int) (count : Nat) : List Char × Int :=
  if significand = 0 then (List.replicate count '0', 0)
  else
    let (a, b) := scale significand 1 2 exponent
    let e := leadingPower a b
    let (x, y) := scale a b 10 ((count : Int) - 1 - e)
    let digits := Nat.toDigits 10 (divideRounded x y).1
    if digits.length > count then (digits.take count, e + 1) else (digits, e)

def exponentText (letter : Char) (least : Nat) (e : Int) : List Char :=
  let digits := Nat.toDigits 10 e.natAbs
  letter :: (if e < 0 then '-' else '+') :: (List.replicate (least - digits.length) '0' ++ digits)

def scientific (places : Nat) (always : Bool) (digits : List Char) (e : Int) : List Char :=
  withPoint places always digits ++ exponentText 'e' 2 e

/-- Zeros at the end of a fraction taken away. -/
def dropZeros (cs : List Char) : List Char :=
  if cs.contains '.' then
    let rev := cs.reverse.dropWhile (· = '0')
    (if rev.head? = some '.' then rev.drop 1 else rev).reverse
  else cs

/-- The shorter way to write a number with so many significant digits. -/
def general (significand : Nat) (exponent : Int) (count : Nat) (keepsZeros : Bool) : List Char :=
  let count := max count 1
  let (digits, e) := significantDigits significand exponent count
  let trim (cs : List Char) : List Char := if keepsZeros then cs else dropZeros cs
  if e ≥ -4 && e < count then
    let places := ((count : Int) - 1 - e).toNat
    trim (withPoint places keepsZeros (fixedDigits significand exponent places))
  else trim (withPoint (count - 1) keepsZeros digits) ++ exponentText 'e' 2 e

/-- A number with hexadecimal digits and a power of two. -/
def hexadecimal (significand : Nat) (exponent : Int) (precision : Option Nat) (always : Bool) :
    List Char :=
  let top : Int := exponent + significand.log2
  let e : Int := if significand = 0 then 0 else max top (-1022)
  let scaled := (divideRounded (scale significand 1 2 (exponent - e + 52)).1
    (scale significand 1 2 (exponent - e + 52)).2).1
  match precision with
  | some p =>
    let n := if p < 13 then (divideRounded scaled (power 16 (13 - p))).1
      else scaled * power 16 (p - 13)
    withPoint p always (Nat.toDigits 16 n) ++ exponentText 'p' 1 e
  | none =>
    let digits := dropZeros (withPoint 13 false (Nat.toDigits 16 scaled))
    (if always && !digits.contains '.' then digits ++ ['.'] else digits) ++ exponentText 'p' 1 e

/-- The digits of a number in the way that a letter asks for, without its sign. -/
def render (x : Float64) (letter : Char) (precision : Option Nat) (alternate : Bool) : List Char :=
  match x with
  | infinite _ => "inf".toList
  | nan _ => "nan".toList
  | finite _ significand exponent =>
    let places := precision.getD 6
    match lower letter with
    | 'f' => withPoint places alternate (fixedDigits significand exponent places)
    | 'e' =>
      let (digits, e) := significantDigits significand exponent (places + 1)
      scientific places alternate digits e
    | 'g' => general significand exponent places alternate
    | _ => hexadecimal significand exponent precision alternate

end Float64

end BuildAtlas.Posix.Shell
