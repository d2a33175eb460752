/-! # Lengths of time

A length of time is a number of nanoseconds. It is shown in the largest unit of which it has
at least one, with as many decimals as it needs.
-/
namespace BuildAtlas

structure Duration where
  nanoseconds : Nat
  deriving DecidableEq, Repr

namespace Duration

def ofMicroseconds (n : Nat) : Duration := ⟨n * 1000⟩

def ofMilliseconds (n : Nat) : Duration := ⟨n * 1000000⟩

def ofSeconds (n : Nat) : Duration := ⟨n * 1000000000⟩

def isDecimalZero (c : Char) : Bool := c = '0'

/-- The decimals of `rest` in a unit of `10 ^ places` parts, without zeros at the end. -/
def decimals (places rest : Nat) : List Char :=
  let digits := Nat.toDigits 10 rest
  let padded := List.replicate (places - digits.length) '0' ++ digits
  (padded.reverse.dropWhile isDecimalZero).reverse

def inUnit (places : Nat) (unit : String) (d : Duration) : String :=
  let whole := d.nanoseconds / Nat.pow 10 places
  let rest := d.nanoseconds % Nat.pow 10 places
  if rest = 0 then toString whole ++ unit
  else toString whole ++ "." ++ String.ofList (decimals places rest) ++ unit

def render (d : Duration) : String :=
  if d.nanoseconds ≥ 1000000000 then d.inUnit 9 "s"
  else if d.nanoseconds ≥ 1000000 then d.inUnit 6 "ms"
  else if d.nanoseconds ≥ 1000 then d.inUnit 3 "µs"
  else d.inUnit 0 "ns"

end BuildAtlas.Duration
