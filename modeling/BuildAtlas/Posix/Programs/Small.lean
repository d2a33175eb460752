import BuildAtlas.Posix.Programs.Basic
import BuildAtlas.Posix.Shell.Builtin.Print

/-! # Programs that need little -/
namespace BuildAtlas.Posix.Programs

open Routine
open Posix.Shell (Float64)

/-! ## Echo -/

/-- What the options of `echo` ask for. -/
structure EchoOptions where
  newline : Bool := true
  escapes : Bool := false
  deriving DecidableEq, Repr

def EchoOptions.set (o : EchoOptions) : Char → EchoOptions
  | 'n' => { o with newline := false }
  | 'e' => { o with escapes := true }
  | _ => { o with escapes := false }

def readEcho (o : EchoOptions) : List String → EchoOptions × List String
  | [] => (o, [])
  | s :: rest =>
    match s.toList with
    | '-' :: c :: cs =>
      if (c :: cs).all fun c => c = 'n' || c = 'e' || c = 'E' then
        readEcho ((c :: cs).foldl EchoOptions.set o) rest
      else (o, s :: rest)
    | _ => (o, s :: rest)

/-- Hexadecimal digits after the letter for them, two at most. -/
def hexByte (cs : List Char) : Option (Char × List Char) :=
  let taken := (cs.take 2).takeWhile Shell.Number.isHexDigit
  if taken.isEmpty then none
  else some (Char.ofNat (Shell.Number.digits 16 0 taken).1, cs.drop taken.length)

def echoText : Nat → List Char → List Char → List Char × Bool
  | 0, rev, _ | _, rev, [] => (rev.reverse, false)
  | steps + 1, rev, '\\' :: c :: rest =>
    if c = 'c' then (rev.reverse, true)
    else if Shell.Print.isOctal c then
      let (byte, rest) := Shell.Print.octal (if c = '0' then rest else c :: rest)
      echoText steps (byte :: rev) rest
    else
      match if c = 'x' then hexByte rest else (Shell.Print.simpleEscape c).map (·, rest) with
      | some (d, rest) => echoText steps (d :: rev) rest
      | none => echoText steps (c :: '\\' :: rev) rest
  | steps + 1, rev, c :: rest => echoText steps (c :: rev) rest

def echo (args : List String) : Routine Nat := do
  let (o, words) := readEcho {} args
  let line := " ".intercalate words
  let (text, stopped) :=
    if o.escapes then echoText (line.length + 1) [] line.toList else (line.toList, false)
  finish "echo" (String.ofList text ++ if o.newline && !stopped then "\n" else "") 0

/-! ## Printf -/

def troubleMessage : Shell.Print.Trouble → String
  | .noNumber s => "'" ++ s ++ "': expected a numeric value"
  | .moreThanNumber s => "'" ++ s ++ "': value not completely converted"
  | .outOfRange s => "'" ++ s ++ "': Numerical result out of range"

def printf (args : List String) : Routine Nat := do
  let args := if args.head? = some "--" then args.drop 1 else args
  match args with
  | [] => misuse "printf" "missing operand" 1
  | format :: args =>
    let p := Shell.Print.printf format args
    p.troubles.forM fun t => complain "printf" (troubleMessage t)
    match p.failure with
    | some message =>
      complain "printf" message
      finish "printf" p.text 1
    | none => finish "printf" p.text (if p.troubles.isEmpty then 0 else 1)

/-! ## Directories -/

def pwd : Routine Nat := do
  match ← call .workingDirectory with
  | .ok path => finish "pwd" (FilePath.render path ++ "\n") 0
  | .error _ => return 1

/-! ## Sleeping -/

/-- The nanoseconds that an argument of `sleep` stands for. -/
def interval (s : String) : Option Nat :=
  match Float64.scan s.toList with
  | none => none
  | some f =>
    let unit : Option Nat :=
      match f.rest with
      | [] | ['s'] => some 1
      | ['m'] => some 60
      | ['h'] => some 3600
      | ['d'] => some 86400
      | _ => none
    match unit, f.value with
    | some unit, .finite false significand exponent =>
      let (a, b) := Float64.scale (significand * unit * 1000000000) 1 2 exponent
      some ((a + b - 1) / b)
    | some _, .finite true 0 _ => some 0
    | some _, .infinite false => some (Nat.pow 10 30)
    | _, _ => none

def isOption (s : String) : Bool :=
  match s.toList with
  | '-' :: _ :: _ => true
  | _ => false

def sleep (args : List String) : Routine Nat := do
  let options := (args.takeWhile (· != "--")).filter isOption
  match options with
  | s :: _ =>
    misuse "sleep" (if ['-', '-'].isPrefixOf s.toList then unknownOption s
      else invalidOption ((s.toList[1]?).getD '-')) 1
  | [] =>
    let times := if args.head? = some "--" then args.drop 1 else args
    match times, times.filter fun s => (interval s).isNone with
    | [], _ => misuse "sleep" "missing operand" 1
    | _, [] =>
      call (.sleep ((times.filterMap interval).foldl (· + ·) 0))
      return 0
    | _, wrong =>
      wrong.forM fun s => complain "sleep" ("invalid time interval '" ++ s ++ "'")
      let _ ← write 2 "Try 'sleep --help' for more information.\n"
      return 1

end BuildAtlas.Posix.Programs
