import BuildAtlas.Posix.Shell.Act
import BuildAtlas.Posix.Shell.Number

/-! # Tests

The conditions of `test`. A word is an operator only where it can be one, so that operators may
be operands as well.
-/
namespace BuildAtlas.Posix.Shell.Test

open Act

inductive Binary where
  | equal
  | unequal
  | before
  | after
  | numbers (holds : Int → Int → Bool)
  | newer
  | older
  | same

inductive Token where
  | ended
  | operand
  | not
  | and
  | or
  | openParen
  | closeParen
  | unary (letter : Char)
  | binary (b : Binary)

def unaryLetters : List Char := "rwxefdcbpugkstznhLOGS".toList

def binary? (s : String) : Option Binary :=
  match s with
  | "=" => some .equal
  | "!=" => some .unequal
  | "<" => some .before
  | ">" => some .after
  | "-eq" => some (.numbers (· == ·))
  | "-ne" => some (.numbers (· != ·))
  | "-ge" => some (.numbers fun a b => decide (b ≤ a))
  | "-gt" => some (.numbers fun a b => decide (b < a))
  | "-le" => some (.numbers fun a b => decide (a ≤ b))
  | "-lt" => some (.numbers fun a b => decide (a < b))
  | "-nt" => some .newer
  | "-ot" => some .older
  | "-ef" => some .same
  | _ => none

/-- The operator that a word is. -/
def operator? (s : String) : Option Token :=
  match s with
  | "!" => some .not
  | "-a" => some .and
  | "-o" => some .or
  | "(" => some .openParen
  | ")" => some .closeParen
  | s =>
    match binary? s with
    | some b => some (.binary b)
    | none =>
      match s.toList with
      | ['-', c] => if unaryLetters.contains c then some (.unary c) else none
      | _ => none

/-- Whether a word that could be an operator is an operand because of what follows it. -/
def isOperand : List String → Bool
  | _ :: next :: _ :: _ => (binary? next).isSome
  | [_, _] => false
  | _ => true

/-- The token that a list of words begins with. -/
def token (words : List String) : Token :=
  match words with
  | [] => .ended
  | s :: rest =>
    match operator? s with
    | some (.unary c) => if isOperand words then .operand else .unary c
    | some .openParen => if rest.isEmpty then .operand else .openParen
    | some t => t
    | none => .operand

def complain {α : Type} (about message : String) : Act α :=
  fail (if about = "" then message else about ++ ": " ++ message)

def number (s : String) : Act Int := do
  match Number.read? true s with
  | some n => return n
  | none => fail (Number.illegal s)

/-! ## Files -/

/-- Directories in which files are kept from other users. -/
def stickyDirectories : List FilePath :=
  [["tmp"], ["var", "tmp"], ["dev", "shm"], ["dev", "mqueue"]]

def fileHas (letter : Char) (s : FileStatus) : Bool :=
  match letter with
  | 'e' | 'r' | 'w' | 'O' | 'G' => true
  | 'f' => s.kind = .regular
  | 'd' => s.kind = .directory
  | 'c' => s.kind = .character
  | 'p' => s.kind = .pipe
  | 'h' | 'L' => s.kind = .link
  | 'k' => stickyDirectories.contains s.identity
  | 's' => s.size != 0
  | 'x' => s.executable
  | _ => false

def unary (letter : Char) (s : String) : Act Bool := do
  match letter with
  | 'z' => return s = ""
  | 'n' => return s != ""
  | 't' =>
    let n ← number s
    call (.isTerminal n.toNat)
  | letter =>
    match ← call (.status s (letter != 'h' && letter != 'L')) with
    | .ok status => return fileHas letter status
    | .error _ => return false

def sameFile (a b : String) : Act Bool := do
  match ← call (.status a true), ← call (.status b true) with
  | .ok x, .ok y => return x.identity = y.identity
  | _, _ => return false

def compare (b : Binary) (x y : String) : Act Bool := do
  match b with
  | .equal => return x = y
  | .unequal => return x != y
  | .before => return x < y
  | .after => return y < x
  | .numbers holds =>
    let m ← number x
    let n ← number y
    return holds m n
  | .newer | .older => return false
  | .same => sameFile x y

/-! ## Conditions

Each yields what it comes to and the words from its last one on. -/

abbrev Condition := Act (Bool × List String)

def primary (either : Token → List String → Condition) (t : Token) (words : List String) :
    Condition := do
  match t, words with
  | .ended, _ | _, [] => return (false, words)
  | .openParen, _ :: rest =>
    match token rest with
    | .closeParen => return (false, rest)
    | t =>
      let (b, last) ← either t rest
      match token (last.drop 1) with
      | .closeParen => return (b, last.drop 1)
      | _ => fail "closing paren expected"
  | .unary c, word :: rest =>
    match rest with
    | [] => complain word "argument expected"
    | s :: _ => return (← unary c s, rest)
  | _, word :: rest =>
    match token rest, rest with
    | .binary b, operator :: operands =>
      match operands with
      | [] => complain operator "argument expected"
      | s :: _ => return (← compare b word s, operands)
    | _, _ => return (word != "", words)

def negation (either : Token → List String → Condition) : Nat → Token → List String → Condition
  | 0, _, words => pure (false, words)
  | steps + 1, t, words => do
    match t with
    | .not =>
      match token (words.drop 1) with
      | .ended => return (true, words)
      | t =>
        let (b, last) ← negation either steps t (words.drop 1)
        return (!b, last)
    | t => primary either t words

def conjunction (either : Token → List String → Condition) : Nat → Bool → Token → List String →
    Condition
  | 0, b, _, words => pure (b, words)
  | steps + 1, so, t, words => do
    let (b, last) ← negation either (words.length + 1) t words
    match token (last.drop 1) with
    | .and => conjunction either steps (so && b) (token (last.drop 2)) (last.drop 2)
    | _ => return (so && b, last)

def disjunctionFrom (either : Token → List String → Condition) : Nat → Bool → Token →
    List String → Condition
  | 0, b, _, words => pure (b, words)
  | steps + 1, so, t, words => do
    let (b, last) ← conjunction either (words.length + 1) true t words
    match token (last.drop 1) with
    | .or => disjunctionFrom either steps (so || b) (token (last.drop 2)) (last.drop 2)
    | _ => return (so || b, last)

/-- Parentheses are nested no deeper than so many levels. -/
def disjunction : Nat → Token → List String → Condition
  | 0, _, words => pure (false, words)
  | depth + 1, t, words =>
    disjunctionFrom (fun t words => disjunction depth t words) (words.length + 1) false t words

def evaluate (t : Token) (words : List String) : Act Bool := do
  let (b, last) ← disjunction (words.length + 1) t words
  match last with
  | word :: _ :: _ => complain word "unexpected operator"
  | _ => return b

/-- What so many words come to; few words have a meaning of their own. -/
def words : Nat → List String → Act Bool
  | 0, _ => pure false
  | steps + 1, args => do
    match args with
    | [] => return false
    | first :: rest =>
      let inParens := first = "(" && rest.getLast? = some ")"
      let whole : Act Bool := evaluate (token args) args
      let special : Act Bool :=
        if inParens then evaluate (token rest.dropLast) rest.dropLast
        else if first = "!" then do return !(← words steps rest)
        else whole
      match rest with
      | [op, _] => if (binary? op).isSome then evaluate .operand args else special
      | [_, _, _] => special
      | _ => whole

/-- The command `test`, or `[` with its closing bracket. -/
def run (name : String) (args : List String) : Act Nat := do
  let args ←
    if name.toList.head? = some '[' then
      if (args.getLast?.bind (·.toList.head?)) = some ']' then pure args.dropLast
      else fail "missing ]"
    else pure args
  return if ← words (args.length + 1) args then 0 else 1

end BuildAtlas.Posix.Shell.Test
