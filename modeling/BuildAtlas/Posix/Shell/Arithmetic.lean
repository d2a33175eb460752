import BuildAtlas.Posix.Shell.Variables

/-! # Arithmetic

Integers of 64 bits that wrap around, with assignments to variables. An operand that cannot
change the result is read but not evaluated.
-/
namespace BuildAtlas.Posix.Shell.Arithmetic

/-- The integer of 64 bits that a number is with its higher bits cut off. -/
def wrap (n : Int) : Int := Int.bmod n 18446744073709551616

inductive Operation where
  | multiply
  | divide
  | remainder
  | add
  | subtract
  | shiftLeft
  | shiftRight
  | less
  | lessEqual
  | greater
  | greaterEqual
  | equal
  | unequal
  | bitAnd
  | bitXor
  | bitOr
  deriving DecidableEq, Repr

namespace Operation

/-- Operations of a lower number come first. -/
def order : Operation → Nat
  | multiply | divide | remainder => 0
  | add | subtract => 1
  | shiftLeft | shiftRight => 2
  | less | lessEqual | greater | greaterEqual => 3
  | equal | unequal => 4
  | bitAnd => 5
  | bitXor => 6
  | bitOr => 7

end Operation

inductive Token where
  | number (n : Int)
  | name (name : String)
  | operation (o : Operation)
  /-- An assignment, with the operation that comes before it. -/
  | assign (o : Option Operation)
  | and
  | or
  | not
  | complement
  | question
  | colon
  | openParen
  | closeParen
  | ended
  | bad
  deriving DecidableEq, Repr

inductive Defect where
  | primaryExpected
  | closeExpected
  | colonExpected
  | endExpected
  | divisionByZero
  /-- Something is wrong with a variable. -/
  | refused (message : String)
  /-- The least number divided by minus one. -/
  | overflow
  | exhausted
  deriving DecidableEq, Repr

/-- What is said about an expression. -/
def Defect.message (text : String) : Defect → String
  | primaryExpected => "arithmetic expression: expecting primary: \"" ++ text ++ "\""
  | closeExpected => "arithmetic expression: expecting ')': \"" ++ text ++ "\""
  | colonExpected => "arithmetic expression: expecting ':': \"" ++ text ++ "\""
  | endExpected => "arithmetic expression: expecting EOF: \"" ++ text ++ "\""
  | divisionByZero => "arithmetic expression: division by zero: \"" ++ text ++ "\""
  | refused message => message
  | overflow | exhausted => ""

structure Scanner where
  shell : State
  text : List Char
  /-- The token after those that have been used. -/
  token : Token := .bad

abbrev Evaluation := StateT Scanner (Except Defect)

/-! ## Tokens -/

/-- An operation, or its assignment if an equals sign follows. -/
def orAssign (o : Operation) (rest : List Char) : Token × List Char :=
  match rest with
  | '=' :: rest => (.assign (some o), rest)
  | rest => (.operation o, rest)

def scanSign (c : Char) (rest : List Char) : Token × List Char :=
  match c, rest with
  | '=', '=' :: rest => (.operation .equal, rest)
  | '=', rest => (.assign none, rest)
  | '>', '=' :: rest => (.operation .greaterEqual, rest)
  | '>', '>' :: rest => orAssign .shiftRight rest
  | '>', rest => (.operation .greater, rest)
  | '<', '=' :: rest => (.operation .lessEqual, rest)
  | '<', '<' :: rest => orAssign .shiftLeft rest
  | '<', rest => (.operation .less, rest)
  | '|', '|' :: rest => (.or, rest)
  | '|', rest => orAssign .bitOr rest
  | '&', '&' :: rest => (.and, rest)
  | '&', rest => orAssign .bitAnd rest
  | '!', '=' :: rest => (.operation .unequal, rest)
  | '!', rest => (.not, rest)
  | '(', rest => (.openParen, rest)
  | ')', rest => (.closeParen, rest)
  | '*', rest => orAssign .multiply rest
  | '/', rest => orAssign .divide rest
  | '%', rest => orAssign .remainder rest
  | '+', rest => orAssign .add rest
  | '-', rest => orAssign .subtract rest
  | '^', rest => orAssign .bitXor rest
  | '~', rest => (.complement, rest)
  | '?', rest => (.question, rest)
  | ':', rest => (.colon, rest)
  | c, rest => (.bad, c :: rest)

def scan : List Char → Token × List Char
  | [] => (.ended, [])
  | c :: rest =>
    if c = ' ' || c = '\t' || c = '\n' then scan rest
    else if isDigit c then
      match Number.scanSigned false (c :: rest) with
      | some s => (.number s.value, s.rest)
      | none => (.bad, c :: rest)
    else if isNameStart c then
      (.name (String.ofList ((c :: rest).takeWhile isNamePart)),
        (c :: rest).dropWhile isNamePart)
    else scanSign c rest

/-- Go on to the next token and yield the one before. -/
def shift : Evaluation Token := fun s =>
  let (token, text) := scan s.text
  .ok (s.token, { s with token, text })

def peek : Evaluation Token := fun s => .ok (s.token, s)

def reject {α : Type} (d : Defect) : Evaluation α := fun _ => .error d

/-! ## Values -/

def ofBool (b : Bool) : Int := if b then 1 else 0

def shiftCount (n : Int) : Nat := (n % 64).toNat

def unsigned (n : Int) : Nat := (n % 18446744073709551616).toNat

def operate (o : Operation) (a b : Int) : Except Defect Int :=
  match o with
  | .multiply => .ok (wrap (a * b))
  | .divide =>
    if b = 0 then .error .divisionByZero
    else if a = Number.least ∧ b = -1 then .error .overflow
    else .ok (Int.tdiv a b)
  | .remainder =>
    if b = 0 then .error .divisionByZero
    else if a = Number.least ∧ b = -1 then .error .overflow
    else .ok (Int.tmod a b)
  | .add => .ok (wrap (a + b))
  | .subtract => .ok (wrap (a - b))
  | .shiftLeft => .ok (wrap (unsigned a <<< shiftCount b : Nat))
  | .shiftRight => .ok (a >>> shiftCount b)
  | .less => .ok (ofBool (a < b))
  | .lessEqual => .ok (ofBool (a ≤ b))
  | .greater => .ok (ofBool (a > b))
  | .greaterEqual => .ok (ofBool (a ≥ b))
  | .equal => .ok (ofBool (a = b))
  | .unequal => .ok (ofBool (a ≠ b))
  | .bitAnd => .ok (wrap (unsigned a &&& unsigned b : Nat))
  | .bitXor => .ok (wrap (unsigned a ^^^ unsigned b : Nat))
  | .bitOr => .ok (wrap (unsigned a ||| unsigned b : Nat))

def operateIf (evaluated : Bool) (o : Operation) (a b : Int) : Evaluation Int :=
  if evaluated then
    match operate o a b with
    | .ok n => pure n
    | .error d => reject d
  else pure b

/-- The number that a variable holds, zero if it has no value. -/
def lookup (name : String) : Evaluation Int := do
  let text := ((← get).shell.value? name).getD ""
  match Number.read? false text with
  | some n => return n
  | none => reject (.refused (Number.illegal text))

def assign (name : String) (value : Int) : Evaluation Int := fun s =>
  match s.shell.set name (toString value) with
  | .ok shell => .ok (value, { s with shell })
  | .error message => .error (.refused message)

/-! ## Expressions -/

mutual

/-- An operand, whose first token has been read. -/
def primary (evaluated : Bool) : Nat → Token → Evaluation Int
  | 0, _ => reject .exhausted
  | steps + 1, t => do
    match t with
    | .number n => return n
    | .name name => if evaluated then lookup name else return 0
    | .openParen =>
      let n ← assignment evaluated steps (← shift)
      if (← shift) = .closeParen then return n else reject .closeExpected
    | .operation .add => primary evaluated steps (← shift)
    | .operation .subtract => return wrap (-(← primary evaluated steps (← shift)))
    | .not => return ofBool ((← primary evaluated steps (← shift)) = 0)
    | .complement => return -(← primary evaluated steps (← shift)) - 1
    | _ => reject .primaryExpected

/-- Operations up to an order, given the first operand. -/
def operations (evaluated : Bool) : Nat → Nat → Int → Evaluation Int
  | 0, _, _ => reject .exhausted
  | steps + 1, order, a => do
    match ← peek with
    | .operation o =>
      if o.order > order then return a
      else
        let _ ← shift
        let b ← primary evaluated steps (← shift)
        let b ←
          match ← peek with
          | .operation next =>
            if next.order < o.order then operations evaluated steps (o.order - 1) b else pure b
          | _ => pure b
        let a ← operateIf evaluated o a b
        operations evaluated steps order a
    | _ => return a

def conjunction (evaluated : Bool) : Nat → Token → Evaluation Int
  | 0, _ => reject .exhausted
  | steps + 1, t => do
    let a ← primary evaluated steps t
    let a ← operations evaluated steps 7 a
    if (← peek) = .and then
      let _ ← shift
      let b ← conjunction (evaluated && a != 0) steps (← shift)
      return ofBool (a != 0 && b != 0)
    else return a

def disjunction (evaluated : Bool) : Nat → Token → Evaluation Int
  | 0, _ => reject .exhausted
  | steps + 1, t => do
    let a ← conjunction evaluated steps t
    if (← peek) = .or then
      let _ ← shift
      let b ← disjunction (evaluated && a = 0) steps (← shift)
      return ofBool (a != 0 || b != 0)
    else return a

def selection (evaluated : Bool) : Nat → Token → Evaluation Int
  | 0, _ => reject .exhausted
  | steps + 1, t => do
    let a ← disjunction evaluated steps t
    if (← peek) = .question then
      let _ ← shift
      let b ← assignment (evaluated && a != 0) steps (← shift)
      if (← peek) = .colon then
        let _ ← shift
        let c ← selection (evaluated && a = 0) steps (← shift)
        return if a != 0 then b else c
      else reject .colonExpected
    else return a

def assignment (evaluated : Bool) : Nat → Token → Evaluation Int
  | 0, _ => reject .exhausted
  | steps + 1, t => do
    match t, ← peek with
    | .name name, .assign o =>
      let _ ← shift
      let n ← assignment evaluated steps (← shift)
      if !evaluated then return n
      else
        match o with
        | none => assign name n
        | some o =>
          let n ← operateIf true o (← lookup name) n
          assign name n
    | t, _ => selection evaluated steps t

end

/-- The value of an expression and the shell after its assignments. -/
def evaluate (st : State) (text : String) : Except Defect (Int × State) := do
  let expression : Evaluation Int := do
    let _ ← shift
    let n ← assignment true (100 * (text.length + 1)) (← shift)
    if (← peek) = .ended then return n else reject .endExpected
  let (n, s) ← expression { shell := st, text := text.toList }
  return (n, s.shell)

end BuildAtlas.Posix.Shell.Arithmetic
