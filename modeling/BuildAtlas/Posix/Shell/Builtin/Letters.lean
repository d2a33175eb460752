import BuildAtlas.Posix.Shell.Act
import BuildAtlas.Posix.Shell.Number

/-! # Arguments of built-in commands -/
namespace BuildAtlas.Posix.Shell

open Act

/-- A letter that a command knows as an option, and whether an argument belongs to it. -/
structure Letter where
  letter : Char
  takes : Bool := false
  deriving DecidableEq, Repr

abbrev Given := List (Char × String)

/-- Read the letters of one word; `rest` are the words after it. -/
def readLetters (known : List Letter) (rest : List String) : List Char →
    Except String (Given × List String)
  | [] => .ok ([], rest)
  | c :: cs =>
    match known.find? (·.letter = c) with
    | none => .error ("Illegal option -" ++ String.ofList [c])
    | some l =>
      if l.takes then
        match cs, rest with
        | [], [] => .error ("No arg for -" ++ String.ofList [c] ++ " option")
        | [], s :: rest => .ok ([(c, s)], rest)
        | cs, rest => .ok ([(c, String.ofList cs)], rest)
      else do
        let (given, rest) ← readLetters known rest cs
        return ((c, "") :: given, rest)

/-- Read the options that arguments begin with. -/
def readOptions (known : List Letter) : Nat → List String → Except String (Given × List String)
  | 0, args => .ok ([], args)
  | steps + 1, args =>
    match args with
    | [] => .ok ([], [])
    | s :: rest =>
      match s.toList with
      | ['-', '-'] => .ok ([], rest)
      | '-' :: c :: cs => do
        let (given, rest) ← readLetters known rest (c :: cs)
        let (more, rest) ← readOptions known steps rest
        return (given ++ more, rest)
      | _ => .ok ([], s :: rest)

/-- Options without arguments, by their letters. -/
def plainLetters (s : String) : List Letter := s.toList.map fun letter => { letter }

/-- The options and the other arguments of a command. -/
def options (known : List Letter) (args : List String) : Act (Given × List String) :=
  match readOptions known (args.length + 1) args with
  | .ok r => pure r
  | .error message => fail message

/-- The arguments of a command that knows no options. -/
def operands (args : List String) : Act (List String) := do
  return (← options [] args).2

def Given.has (g : Given) (c : Char) : Bool := g.any (·.1 = c)

/-- A count that an argument gives. -/
def count (s : String) : Act Nat :=
  match Number.count? s with
  | some n => pure n
  | none => fail (Number.illegal s)

/-- Do what may be refused. -/
def change (f : State → Except String State) : Act Unit := do
  match f (← state) with
  | .ok st => modify fun _ => st
  | .error message => fail message

end BuildAtlas.Posix.Shell
