import BuildAtlas.Posix.Shell.Syntax

/-! # Reading commands

What a reader knows while it goes through a text. The text may be a beginning only; a reader
that needs more of it stops and is started again when there is more. A text with here-documents
is read twice, since a redirection is built before the lines that it stands for: the second
time these are known.
-/
namespace BuildAtlas.Posix.Shell

inductive Keyword where
  | bang
  | case
  | do
  | done
  | elif
  | else
  | esac
  | fi
  | for
  | if
  | in
  | then
  | until
  | while
  | openBrace
  | closeBrace
  deriving DecidableEq, Repr

namespace Keyword

def text : Keyword → String
  | bang => "!"
  | .case => "case"
  | .do => "do"
  | done => "done"
  | elif => "elif"
  | .else => "else"
  | esac => "esac"
  | fi => "fi"
  | .for => "for"
  | .if => "if"
  | .in => "in"
  | .then => "then"
  | .until => "until"
  | .while => "while"
  | openBrace => "\x7b"
  | closeBrace => "\x7d"

def all : List Keyword := [bang, .case, .do, done, elif, .else, esac, fi, .for, .if, .in, .then,
  .until, .while, openBrace, closeBrace]

def ofText? (s : String) : Option Keyword := all.find? (·.text = s)

/-- Keywords that end a list of commands. -/
def endsList : Keyword → Bool
  | .do | done | elif | .else | esac | fi | .then | closeBrace => true
  | _ => false

end Keyword

inductive Token where
  | endOfFile
  | newline
  | semicolon
  | background
  | andIf
  | orIf
  | pipe
  | openParen
  | closeParen
  | endCase
  | word
  | redirection
  | keyword (k : Keyword)
  deriving DecidableEq, Repr

namespace Token

/-- How a message names a token. -/
def text : Token → String
  | endOfFile => "end of file"
  | newline => "newline"
  | semicolon => "\";\""
  | background => "\"&\""
  | andIf => "\"&&\""
  | orIf => "\"||\""
  | pipe => "\"|\""
  | openParen => "\"(\""
  | closeParen => "\")\""
  | endCase => "\";;\""
  | word => "word"
  | redirection => "redirection"
  | keyword k => "\"" ++ k.text ++ "\""

def endsList : Token → Bool
  | endOfFile | closeParen | endCase => true
  | keyword k => k.endsList
  | _ => false

end Token

namespace Reader

/-- Text that an alias puts in front of the rest. -/
structure Inset where
  chars : List Char
  name : String
  /-- Whether the word after it may be an alias too. -/
  endsBlank : Bool

/-- What the next token is looked at for. -/
structure Checks where
  keyword : Bool := false
  aliases : Bool := false
  newline : Bool := false
  endMark : Bool := false

/-- A here-document whose lines are still to come. -/
structure Awaited where
  number : Nat
  mark : List Char
  stripsTabs : Bool
  expands : Bool

/-- The beginning of a redirection, up to its word. -/
inductive Opening where
  | file (descriptor : Nat) (access : Access)
  | duplicate (descriptor : Nat)
  | document (descriptor : Nat) (stripsTabs : Bool)

structure State where
  text : List Char
  insets : List Inset := []
  /-- Whether the text goes no further. -/
  complete : Bool := true
  line : Nat := 1
  aliases : List (String × String) := []
  /-- Aliases whose text has just been left. -/
  released : List String := []
  /-- Aliases under way in the text around this one. -/
  held : List String := []
  pushedBack : Bool := false
  token : Token := .newline
  word : Word := []
  wordQuoted : Bool := false
  checks : Checks := {}
  opening : Opening := .duplicate 0
  awaited : List Awaited := []
  /-- Here-documents by number, as far as they are known. -/
  known : List (Nat × Word) := []
  found : List (Nat × Word) := []
  nextNumber : Nat := 0

inductive Stop where
  /-- More of the text is needed. -/
  | incomplete
  /-- A message, the line, and how much of the text is left. -/
  | defect (message : String) (line left : Nat)
  | exhausted

end Reader

abbrev Reader := StateT Reader.State (Except Reader.Stop)

namespace Reader

/-- No text takes so many steps. -/
def plenty : Nat := 1000000000

def fail {α : Type} (message : String) : Reader α := fun s =>
  .error (.defect message s.line s.text.length)

def exhaust {α : Type} : Reader α := fun _ => .error .exhausted

/-! ## Characters -/

def nextOfText (s : State) : Except Stop (Option Char × State) :=
  match s.text with
  | c :: rest => .ok (some c, { s with text := rest })
  | [] => if s.complete then .ok (none, s) else .error .incomplete

def nextOfInsets : List Inset → State → Except Stop (Option Char × State)
  | [], s => nextOfText { s with insets := [] }
  | { chars := c :: rest, name, endsBlank } :: outer, s =>
    .ok (some c, { s with insets := { chars := rest, name, endsBlank } :: outer })
  | { chars := [], name, endsBlank } :: outer, s =>
    nextOfInsets outer { s with
      released := name :: s.released
      checks := if endsBlank then { s.checks with aliases := true } else s.checks }

/-- The next character as it stands, or the end. -/
def next : Reader (Option Char) := fun s =>
  match s.insets with
  | [] => nextOfText (if s.released.isEmpty then s else { s with released := [] })
  | insets => nextOfInsets insets { s with released := [] }

/-- Put a character back. -/
def putBack (c : Option Char) : Reader Unit := fun s =>
  match c, s.insets with
  | none, _ => .ok ((), s)
  | some c, [] => .ok ((), { s with text := c :: s.text })
  | some c, i :: outer => .ok ((), { s with insets := { i with chars := c :: i.chars } :: outer })

def countLine : Reader Unit := fun s => .ok ((), { s with line := s.line + 1 })

/-- The next character after lines that a backslash continues. -/
def nextJoinedFrom : Nat → Reader (Option Char)
  | 0 => exhaust
  | steps + 1 => do
    let c ← next
    if c = some '\\' then
      let d ← next
      if d = some '\n' then
        countLine
        nextJoinedFrom steps
      else
        putBack d
        return c
    else return c

def nextJoined : Reader (Option Char) := nextJoinedFrom plenty

/-! ## Here-documents -/

/-- The lines of a here-document, empty as long as they are not known. -/
def knownDocument (number : Nat) : Reader Word := fun s =>
  .ok ((s.known.lookup number).getD [], s)

def await (mark : List Char) (stripsTabs expands : Bool) : Reader Nat := fun s =>
  .ok (s.nextNumber, { s with
    nextNumber := s.nextNumber + 1
    awaited := s.awaited ++ [{ number := s.nextNumber, mark, stripsTabs, expands }] })

end BuildAtlas.Posix.Shell.Reader
