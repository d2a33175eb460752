import BuildAtlas.Posix.System.Program
import BuildAtlas.Text.Utf8

/-! # Small programs

What the programs of the system are written with: calls one after the other, and messages on
standard error.
-/
namespace BuildAtlas.Posix.Programs

/-- Part of a program that yields a value. -/
def Routine (α : Type) : Type := (α → Program) → Program

namespace Routine

@[inline] protected def pure {α : Type} (a : α) : Routine α := fun k => k a

@[inline] protected def bind {α β : Type} (m : Routine α) (f : α → Routine β) : Routine β :=
  fun k => m fun a => f a k

instance : Monad Routine where
  pure := Routine.pure
  bind := Routine.bind

def call (c : Call) : Routine c.Reply := fun k => .call c k

/-- End the program. -/
def exit {α : Type} (status : Nat) : Routine α := fun _ => .exit status

/-- A program whose status is what a task yields. -/
def toProgram (m : Routine Nat) : Program := m fun status => .exit status

end Routine

open Routine

/-! ## Writing -/

/-- Write all of some bytes; the failure if there is one. -/
def writeFrom (descriptor : Nat) : Nat → ByteArray → Routine (Option Errno)
  | 0, _ => pure none
  | steps + 1, bytes => do
    if bytes.isEmpty then return none
    else
      match ← call (.write descriptor bytes) with
      | .ok n => writeFrom descriptor steps (bytes.extract n bytes.size)
      | .error .interrupted => writeFrom descriptor steps bytes
      | .error failure => return some failure

def writeBytes (descriptor : Nat) (bytes : ByteArray) : Routine (Option Errno) :=
  writeFrom descriptor (2 * bytes.size + 1) bytes

def write (descriptor : Nat) (text : String) : Routine (Option Errno) :=
  writeBytes descriptor (Text.toBytes text)

/-- Print a message on standard error. -/
def complain (name message : String) : Routine Unit := do
  let _ ← write 2 (name ++ ": " ++ message ++ "\n")

/-- Print as the last thing, and end. -/
def finish (name text : String) (status : Nat) : Routine Nat := do
  if text.isEmpty then return status
  else
    match ← write 1 text with
    | none => return status
    | some failure =>
      complain name ("write error: " ++ failure.message)
      return 1

/-- Complain about the way a program was called. -/
def misuse (name message : String) (status : Nat) : Routine Nat := do
  complain name message
  let _ ← write 2 ("Try '" ++ name ++ " --help' for more information.\n")
  return status

def invalidOption (c : Char) : String := "invalid option -- '" ++ String.ofList [c] ++ "'"

def unknownOption (s : String) : String := "unrecognized option '" ++ s ++ "'"

/-! ## Names in messages -/

/-- Characters that a name is not printed with as it is. -/
def isSpecial (c : Char) : Bool :=
  c < '!' || c > '~' || "!\"$&'()*:;<=>?[\\^`|".toList.contains c

/-- Characters that do not stand for themselves between quotes. -/
def isUnprintable (c : Char) : Bool := c < ' ' || c > '~'

def octalDigits (n : Nat) : List Char :=
  let digits := Nat.toDigits 8 n
  List.replicate (3 - digits.length) '0' ++ digits

def escapeName (c : Char) : List Char :=
  match c with
  | '\x07' => ['a']
  | '\x08' => ['b']
  | '\x0c' => ['f']
  | '\n' => ['n']
  | '\r' => ['r']
  | '\t' => ['t']
  | '\x0b' => ['v']
  | c => octalDigits c.toNat

/-- A name between quotes, with the characters that cannot be printed outside of them. -/
def quoteParts : Bool → List Char → List Char
  | _, [] => ['\'']
  | inside, c :: rest =>
    if isUnprintable c then
      let before := if inside then "'$'\\".toList else ['\\']
      before ++ escapeName c ++ quoteParts false rest
    else if c = '\'' then (if inside then ['\''] else []) ++ ['\\', '\''] ++
      (if inside then ['\''] else []) ++ quoteParts inside rest
    else (if inside then [c] else ['\'', '\'', c]) ++ quoteParts true rest

/-- A name as it is printed in messages. -/
def quoteName (s : String) : String :=
  let cs := s.toList
  let lead := cs.head?.any fun c => c = '~' || c = '#'
  if cs.isEmpty then "''"
  else if cs = ['\x7b'] || cs = ['\x7d'] then "'" ++ s ++ "'"
  else if !lead && !cs.any isSpecial then s
  else if cs.contains '\'' && !cs.any (fun c => c = '"' || c = '$' || c = '\\' || c = '`' || c = '!' || isUnprintable c) then
    "\"" ++ s ++ "\""
  else String.ofList ('\'' :: quoteParts true cs)

end BuildAtlas.Posix.Programs
