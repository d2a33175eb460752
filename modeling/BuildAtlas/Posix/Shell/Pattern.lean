/-! # Patterns

A star stands for any run of characters, a question mark for any character, brackets for one of
a set, and a backslash takes the meaning of the next character away.
-/
namespace BuildAtlas.Posix.Shell.Pattern

/-- The place of a byte in the order of ranges, which puts those from 128 on first. -/
def rank (c : Char) : Int := if c.toNat < 128 then c.toNat else (c.toNat : Int) - 256

def isLower (c : Char) : Bool := 'a' ≤ c && c ≤ 'z'

def isUpper (c : Char) : Bool := 'A' ≤ c && c ≤ 'Z'

def isDecimal (c : Char) : Bool := '0' ≤ c && c ≤ '9'

def isGraphic (c : Char) : Bool := '!' ≤ c && c ≤ '~'

def isAlphanumeric (c : Char) : Bool := isLower c || isUpper c || isDecimal c

/-- The sets with names, and how they end within brackets. -/
def classes : List (List Char × (Char → Bool)) := [
  (":alnum:]".toList, isAlphanumeric),
  (":alpha:]".toList, fun c => isLower c || isUpper c),
  (":blank:]".toList, fun c => c = ' ' || c = '\t'),
  (":cntrl:]".toList, fun c => c < ' ' || c = '\x7f'),
  (":digit:]".toList, isDecimal),
  (":graph:]".toList, isGraphic),
  (":lower:]".toList, isLower),
  (":print:]".toList, fun c => c = ' ' || isGraphic c),
  (":punct:]".toList, fun c => isGraphic c && !isAlphanumeric c),
  (":space:]".toList, fun c => c = ' ' || ('\t' ≤ c && c ≤ '\r')),
  (":upper:]".toList, isUpper),
  (":xdigit:]".toList, fun c => isDecimal c || ('a' ≤ c && c ≤ 'f') || ('A' ≤ c && c ≤ 'F'))]

/-- The named set that a text begins with, and what follows it. -/
def class? (p : List Char) : Option ((Char → Bool) × List Char) :=
  classes.findSome? fun (name, test) =>
    if name.isPrefixOf p then some (test, p.drop name.length) else none

/-- Whether a character is in the set that goes on so, and what follows the set; an open set is
none. The first character of a set is no closing bracket. -/
def inSet (c : Char) : Nat → Bool → Bool → List Char → Option (Bool × List Char)
  | 0, _, _, _ => none
  | _ + 1, _, _, [] => none
  | steps + 1, first, found, d :: p =>
    if d = ']' && !first then some (found, p)
    else
      match if d = '[' then class? p else none with
      | some (test, p) => inSet c steps false (found || test c) p
      | none =>
        let (d, p) :=
          match d, p with
          | '\\', e :: p => (e, p)
          | d, p => (d, p)
        match p with
        | '-' :: e :: q =>
          if e = ']' then inSet c steps false (found || c = d) p
          else
            let (e, q) :=
              match e, q with
              | '\\', f :: q => (f, q)
              | e, q => (e, q)
            inSet c steps false
              (found || (decide (rank d ≤ rank c) && decide (rank c ≤ rank e))) q
        | p => inSet c steps false (found || c = d) p

/-- Whether a character is in the set after an opening bracket, and what follows the set. -/
def matchSet (c : Char) (p : List Char) : Option (Bool × List Char) :=
  match p with
  | '!' :: p => (inSet c (p.length + 1) true false p).map fun (found, p) => (!found, p)
  | p => inSet c (p.length + 1) true false p

/-- Whether what is left satisfies a test after some run of characters. -/
def afterRun (test : List Char → Bool) : List Char → Bool
  | [] => test []
  | c :: s => test (c :: s) || afterRun test s

def acceptsWithin : Nat → List Char → List Char → Bool
  | 0, _, _ => false
  | _ + 1, [], s => s.isEmpty
  | steps + 1, '*' :: p, s =>
    let p := p.dropWhile (· = '*')
    if p.isEmpty then true else afterRun (acceptsWithin steps p) s
  | steps + 1, '?' :: p, s =>
    match s with
    | [] => false
    | _ :: s => acceptsWithin steps p s
  | steps + 1, '[' :: p, s =>
    match s with
    | [] => false
    | c :: s =>
      match matchSet c p with
      | some (true, p) => acceptsWithin steps p s
      | some (false, _) => false
      | none => c = '[' && acceptsWithin steps p s
  | steps + 1, '\\' :: c :: p, s =>
    match s with
    | [] => false
    | d :: s => d = c && acceptsWithin steps p s
  | steps + 1, c :: p, s =>
    match s with
    | [] => false
    | d :: s => d = c && acceptsWithin steps p s

/-- Whether a text matches a pattern. -/
def accepts (p s : List Char) : Bool := acceptsWithin (p.length + 1) p s

end BuildAtlas.Posix.Shell.Pattern
