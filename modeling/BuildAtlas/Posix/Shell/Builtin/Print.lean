import BuildAtlas.Posix.Shell.Builtin.Float

/-! # Printed text

What `echo` and `printf` print. Backslashes name characters; the directives of a format take the
arguments in order, again and again until none is left.
-/
namespace BuildAtlas.Posix.Shell.Print

/-! ## Backslashes -/

def simpleEscape (c : Char) : Option Char :=
  match c with
  | '\\' => some '\\'
  | 'a' => some '\x07'
  | 'b' => some '\x08'
  | 'e' => some '\x1b'
  | 'f' => some '\x0c'
  | 'n' => some '\n'
  | 'r' => some '\r'
  | 't' => some '\t'
  | 'v' => some '\x0b'
  | _ => none

def isOctal (c : Char) : Bool := '0' ≤ c && c ≤ '7'

/-- The byte that up to three octal digits name, and what follows them. -/
def octal (cs : List Char) : Char × List Char :=
  let taken := (cs.take 3).takeWhile isOctal
  (Char.ofNat ((Number.digits 8 0 taken).1 % 256), cs.drop taken.length)

/-- The character that is named after a backslash, and what follows. -/
def escape (cs : List Char) : Char × List Char :=
  match cs with
  | [] => ('\\', [])
  | c :: rest =>
    if isOctal c then octal cs
    else
      match simpleEscape c with
      | some d => (d, rest)
      | none => ('\\', cs)

/-- A text with its backslashes replaced, and whether one of them stopped it. -/
def unescape : Nat → List Char → List Char → List Char × Bool
  | 0, rev, _ | _, rev, [] => (rev.reverse, false)
  | _ + 1, rev, '\\' :: 'c' :: _ => (rev.reverse, true)
  | steps + 1, rev, '\\' :: '0' :: c :: rest =>
    if isOctal c then
      let (byte, rest) := octal (c :: rest)
      unescape steps (byte :: rev) rest
    else unescape steps ('\x00' :: rev) (c :: rest)
  | steps + 1, rev, '\\' :: rest =>
    let (c, rest) := escape rest
    unescape steps (c :: rev) rest
  | steps + 1, rev, c :: rest => unescape steps (c :: rev) rest

def unescaped (cs : List Char) : List Char × Bool := unescape (cs.length + 1) [] cs

/-- What `echo` prints of its arguments. -/
def echoFrom (newline : Bool) : List String → List Char
  | [] => if newline then ['\n'] else []
  | [s] =>
    let (text, stopped) := unescaped s.toList
    text ++ if newline && !stopped then ['\n'] else []
  | s :: rest =>
    let (text, stopped) := unescaped s.toList
    if stopped then text else text ++ ' ' :: echoFrom newline rest

def echo (args : List String) : String :=
  match args with
  | "-n" :: rest => String.ofList (echoFrom false rest)
  | args => String.ofList (echoFrom true args)

/-! ## Directives -/

structure Directive where
  left : Bool := false
  plus : Bool := false
  space : Bool := false
  alternate : Bool := false
  zero : Bool := false
  width : Nat := 0
  precision : Option Nat := none

/-- What can be wrong with an argument that should be a number. -/
inductive Trouble where
  | noNumber (s : String)
  | moreThanNumber (s : String)
  | outOfRange (s : String)
  deriving DecidableEq, Repr

def Trouble.message : Trouble → String
  | noNumber s => s ++ ": expected numeric value"
  | moreThanNumber s => s ++ ": not completely converted"
  | outOfRange s => s ++ ": Numerical result out of range"

/-- What has been printed so far, last character first. -/
structure Printed where
  rev : List Char := []
  /-- What is wrong with the arguments, last first. -/
  troubles : List Trouble := []
  arguments : List String
  /-- Whether an argument has been asked for. -/
  asked : Bool := false

namespace Printed

def append (w : Printed) (cs : List Char) : Printed := { w with rev := cs.reverse ++ w.rev }

def next (w : Printed) : Option String × Printed :=
  match w.arguments with
  | [] => (none, w)
  | s :: rest => (some s, { w with arguments := rest, asked := true })

def note (w : Printed) (t : Trouble) : Printed := { w with troubles := t :: w.troubles }

end Printed

/-- Note what is wrong with the number of an argument. -/
def checkNumber (w : Printed) (s : String) (found tooLarge : Bool) (rest : List Char) : Printed :=
  if !rest.isEmpty then
    w.note (if found then .moreThanNumber s else .noNumber s)
  else if tooLarge then w.note (.outOfRange s)
  else w

/-- The character after a quote stands for its code. -/
def quotedCode (s : String) : Option Nat :=
  match s.toList with
  | '"' :: rest | '\'' :: rest => some ((rest.head?.map Char.toNat).getD 0)
  | _ => none

/-- The digits of an argument without their sign. -/
def unsignedDigits (cs : List Char) : Option (Bool × Nat × List Char) :=
  let (negative, cs) :=
    match cs with
    | '-' :: cs => (true, cs)
    | '+' :: cs => (false, cs)
    | cs => (false, cs)
  let (base, digits) := Number.baseOf cs
  match digits with
  | [] => none
  | c :: _ =>
    if (Number.digit? base c).isNone then none
    else
      let (n, rest) := Number.digits base 0 digits
      some (negative, n, rest)

/-- The integer that the next argument stands for, cut to 64 bits. -/
def nextInteger (signed : Bool) (w : Printed) : Int × Printed :=
  match w.next with
  | (none, w) => (0, w)
  | (some s, w) =>
    match quotedCode s with
    | some n => (n, w)
    | none =>
      let cs := s.toList.dropWhile Number.isBlank
      match unsignedDigits cs with
      | none => (0, checkNumber w s false false s.toList)
      | some (negative, n, rest) =>
        let value : Int := if negative then -(n : Int) else n
        if signed then
          let kept := max Number.least (min Number.greatest value)
          (kept, checkNumber w s true (kept != value) rest)
        else if n ≥ 18446744073709551616 then (-1, checkNumber w s true true rest)
        else (value, checkNumber w s true false rest)

def nextFloat (w : Printed) : Float64 × Printed :=
  match w.next with
  | (none, w) => (.finite false 0 0, w)
  | (some s, w) =>
    match quotedCode s with
    | some n => (.finite false n 0, w)
    | none =>
      match Float64.scan s.toList with
      | none => (.finite false 0 0, checkNumber w s false false s.toList)
      | some f => (f.value, checkNumber w s true f.outOfRange f.rest)

def readFlags (d : Directive) : List Char → Directive × List Char
  | '-' :: cs => readFlags { d with left := true } cs
  | '+' :: cs => readFlags { d with plus := true } cs
  | ' ' :: cs => readFlags { d with space := true } cs
  | '#' :: cs => readFlags { d with alternate := true } cs
  | '0' :: cs => readFlags { d with zero := true } cs
  | cs => (d, cs)

/-- The integer of 32 bits that a number is with its higher bits cut off. -/
def narrow (n : Int) : Int := Int.bmod n 4294967296

/-- A count that is written out or that the next argument gives. -/
def readCount (cs : List Char) (w : Printed) : Int × List Char × Printed :=
  match cs with
  | '*' :: cs =>
    let (n, w) := nextInteger true w
    (narrow n, cs, w)
  | cs =>
    let (n, rest) := Number.digits 10 0 cs
    (n, rest.dropWhile fun c => c = '*' || isDigit c, w)

/-- Read what stands between the percent sign and the letter of a directive. -/
def readDirective (cs : List Char) (w : Printed) : Directive × List Char × Printed :=
  let (d, cs) := readFlags {} cs
  let (width, cs, w) := readCount cs w
  let d := { d with width := width.natAbs, left := d.left || decide (width < 0) }
  match cs with
  | '.' :: cs =>
    let (precision, cs, w) := readCount cs w
    ({ d with precision := if precision < 0 then none else some precision.toNat }, cs, w)
  | cs => (d, cs, w)

def pad (d : Directive) (body : List Char) : List Char :=
  let fill := List.replicate (d.width - body.length) ' '
  if d.left then body ++ fill else fill ++ body

/-- A sign or prefix and digits, with zeros between them up to the width if asked for. -/
def padNumber (d : Directive) (zeros : Bool) (lead digits : List Char) : List Char :=
  if zeros && d.zero && !d.left then
    lead ++ List.replicate (d.width - lead.length - digits.length) '0' ++ digits
  else pad d (lead ++ digits)

def sign (d : Directive) (negative : Bool) : List Char :=
  if negative then ['-'] else if d.plus then ['+'] else if d.space then [' '] else []

/-- The digits of an integer, as many at least as the precision asks for. -/
def withPrecision (d : Directive) (n : Nat) (digits : List Char) : List Char :=
  match d.precision with
  | none => digits
  | some p =>
    if p = 0 && n = 0 then [] else List.replicate (p - digits.length) '0' ++ digits

def signedText (d : Directive) (n : Int) : List Char :=
  padNumber d d.precision.isNone (sign d (n < 0))
    (withPrecision d n.natAbs (Nat.toDigits 10 n.natAbs))

def unsignedText (d : Directive) (letter : Char) (value : Int) : List Char :=
  let n := (value % 18446744073709551616).toNat
  match letter with
  | 'o' =>
    let digits := withPrecision d n (Nat.toDigits 8 n)
    let digits := if d.alternate && digits.head? != some '0' then '0' :: digits else digits
    padNumber d d.precision.isNone [] digits
  | 'x' | 'X' =>
    let upper (cs : List Char) : List Char := if letter = 'X' then cs.map Char.toUpper else cs
    let digits := withPrecision d n (Nat.toDigits 16 n)
    let lead := if d.alternate && n != 0 then ['0', 'x'] else []
    padNumber d d.precision.isNone (upper lead) (upper digits)
  | _ => padNumber d d.precision.isNone [] (withPrecision d n (Nat.toDigits 10 n))

def floatText (d : Directive) (letter : Char) (x : Float64) : List Char :=
  let upper (cs : List Char) : List Char :=
    if 'A' ≤ letter && letter ≤ 'Z' then cs.map Char.toUpper else cs
  let digits := upper (x.render letter d.precision d.alternate)
  let lead := sign d x.isNegative
  match x with
  | .finite _ _ _ =>
    let lead := if Float64.lower letter = 'a' then lead ++ upper ['0', 'x'] else lead
    padNumber d true lead digits
  | _ => pad d (lead ++ digits)

def cut (d : Directive) (cs : List Char) : List Char :=
  match d.precision with
  | some p => cs.take p
  | none => cs

/-- How a directive leaves the format. -/
inductive Turn where
  | goes (w : Printed)
  | stops (w : Printed)
  | fails (w : Printed) (message : String)

/-- Print what a directive asks for. -/
def direct (d : Directive) (letter : Char) (text : List Char) (w : Printed) : Turn :=
  match letter with
  | 'b' =>
    let (s, w) := w.next
    let (body, stopped) := unescaped (s.getD "").toList
    let w := w.append (pad d (cut d body))
    if stopped then .stops w else .goes w
  | 'c' =>
    let (s, w) := w.next
    .goes (w.append (pad d [(s.bind (·.toList.head?)).getD '\x00']))
  | 's' =>
    let (s, w) := w.next
    .goes (w.append (pad d (cut d (s.getD "").toList)))
  | 'd' | 'i' =>
    let (n, w) := nextInteger true w
    .goes (w.append (signedText d n))
  | 'o' | 'u' | 'x' | 'X' =>
    let (n, w) := nextInteger false w
    .goes (w.append (unsignedText d letter n))
  | 'a' | 'A' | 'e' | 'E' | 'f' | 'F' | 'g' | 'G' =>
    let (x, w) := nextFloat w
    .goes (w.append (floatText d letter x))
  | _ => .fails w (String.ofList text ++ ": invalid directive")

/-- Go through a format once. -/
def pass : Nat → List Char → Printed → Turn
  | 0, _, w | _, [], w => .goes w
  | steps + 1, '\\' :: rest, w =>
    let (c, rest) := escape rest
    pass steps rest (w.append [c])
  | steps + 1, '%' :: '%' :: rest, w => pass steps rest (w.append ['%'])
  | steps + 1, '%' :: rest, w =>
    let (d, after, w) := readDirective rest w
    match after with
    | [] => .fails w "missing format character"
    | letter :: after' =>
      match direct d letter ('%' :: rest.take (rest.length - after'.length)) w with
      | .goes w => pass steps after' w
      | turn => turn
  | steps + 1, c :: rest, w => pass steps rest (w.append [c])

/-- Go through a format until the arguments are used up. -/
def passes (format : List Char) : Nat → Printed → Turn
  | 0, w => .goes w
  | steps + 1, w =>
    match pass (format.length + 1) format w with
    | .goes w => if w.asked && !w.arguments.isEmpty then passes format steps w else .goes w
    | turn => turn

/-- What `printf` prints, what is wrong with its arguments and what makes it fail. -/
structure Formatted where
  text : String
  troubles : List Trouble
  failure : Option String

def printf (format : String) (args : List String) : Formatted :=
  let finish (w : Printed) (failure : Option String) : Formatted :=
    ⟨String.ofList w.rev.reverse, w.troubles.reverse, failure⟩
  match passes format.toList (args.length + 1) { arguments := args } with
  | .goes w | .stops w => finish w none
  | .fails w message => finish w (some message)

/-! ## Quoting -/

/-- Characters in runs, each of quotes only or of anything else. -/
def quoteRuns (cs : List Char) : List (List Char) := cs.splitBy fun a b => (a = '\'') = (b = '\'')

/-- A text as one word that means itself. -/
def quote (text : String) : String :=
  let cs := text.toList
  let runs := quoteRuns cs
  let quoted := runs.map fun run =>
    if run.head? = some '\'' then '"' :: run ++ ['"'] else '\'' :: run ++ ['\'']
  let lead := if cs.head?.all (· = '\'') then ['\'', '\''] else []
  String.ofList (lead ++ quoted.flatten)

end BuildAtlas.Posix.Shell.Print
