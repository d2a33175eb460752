import BuildAtlas.Json.Basic

/-! # Writing JSON

Two layouts: everything on one line, or one entry a line with two spaces for each level.
Empty lists and objects stay on one line in both. Text outside ASCII is not escaped.
-/
namespace BuildAtlas.Json

def hexDigits (n : Nat) : List Char :=
  let digits := Nat.toDigits 16 n
  List.replicate (4 - digits.length) '0' ++ digits

def escape (c : Char) : List Char :=
  match c with
  | '"' => ['\\', '"']
  | '\\' => ['\\', '\\']
  | '\x08' => ['\\', 'b']
  | '\x0c' => ['\\', 'f']
  | '\n' => ['\\', 'n']
  | '\r' => ['\\', 'r']
  | '\t' => ['\\', 't']
  | c => if c.toNat < 0x20 then ['\\', 'u'] ++ hexDigits c.toNat else [c]

def literal (s : String) : String :=
  String.ofList (['"'] ++ s.toList.flatMap escape ++ ['"'])

def scalar : Json → String
  | bool true => "true"
  | bool false => "false"
  | integer n => toString n
  | decimal m e => toString m ++ "e" ++ toString e
  | string s => literal s
  | _ => "null"

mutual
def compact : Json → String
  | list items => "[" ++ ",".intercalate (compactItems items) ++ "]"
  | object fields => "\x7b" ++ ",".intercalate (compactFields fields) ++ "\x7d"
  | v => scalar v

def compactItems : List Json → List String
  | [] => []
  | v :: vs => compact v :: compactItems vs

def compactFields : List (String × Json) → List String
  | [] => []
  | (key, v) :: rest => (literal key ++ ":" ++ compact v) :: compactFields rest
end

def indent (level : Nat) : String := String.ofList (List.replicate (2 * level) ' ')

/-- Entries between brackets, one a line, the brackets at the level outside. -/
def block (left right : String) (level : Nat) (entries : List String) : String :=
  if entries.isEmpty then left ++ right
  else
    let gap := "\n" ++ indent (level + 1)
    left ++ gap ++ ("," ++ gap).intercalate entries ++ "\n" ++ indent level ++ right

mutual
def prettyAt (level : Nat) : Json → String
  | list items => block "[" "]" level (prettyItems (level + 1) items)
  | object fields => block "\x7b" "\x7d" level (prettyFields (level + 1) fields)
  | v => scalar v

def prettyItems (level : Nat) : List Json → List String
  | [] => []
  | v :: vs => prettyAt level v :: prettyItems level vs

def prettyFields (level : Nat) : List (String × Json) → List String
  | [] => []
  | (key, v) :: rest => (literal key ++ ": " ++ prettyAt level v) :: prettyFields level rest
end

def pretty (v : Json) : String := prettyAt 0 v

end BuildAtlas.Json
