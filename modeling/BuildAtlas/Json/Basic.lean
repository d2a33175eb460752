/-! # JSON values

Numbers keep the form they were written in: an integer has neither fraction nor exponent and
fits in 64 bits, everything else is a decimal.
-/
namespace BuildAtlas

inductive Json where
  | null
  | bool (b : Bool)
  | integer (n : Int)
  | decimal (mantissa exponent : Int)
  | string (s : String)
  | list (items : List Json)
  | object (fields : List (String × Json))
  deriving Inhabited

namespace Json

/-- The member of an object; of several with one name the last counts. -/
def get? (key : String) : Json → Option Json
  | object fields => ((fields.filter fun field => field.1 == key).getLast?).map (·.2)
  | _ => none

def string? : Json → Option String
  | string s => some s
  | _ => none

def integer? : Json → Option Int
  | integer n => some n
  | _ => none

/-- An integer that is not negative and fits in 64 bits. -/
def natural? : Json → Option Nat
  | integer (.ofNat n) => if n < UInt64.size then some n else none
  | _ => none

def bool? : Json → Option Bool
  | bool b => some b
  | _ => none

def list? : Json → Option (List Json)
  | list items => some items
  | _ => none

def ofNat (n : Nat) : Json := integer n

def ofOption (encode : α → Json) : Option α → Json
  | none => null
  | some a => encode a

def strings (ss : List String) : Json := list (ss.map string)

end Json
end BuildAtlas
