/-! # The syntax of shell commands

Words keep the marks of the quotes they were written with, since what an expansion yields is
split, matched and tidied up by them.
-/
namespace BuildAtlas.Posix.Shell

/-- What a parameter is asked for. -/
inductive Operator where
  | value
  | orElse
  | ifSet
  | orComplain
  | orAssign
  | dropSuffix
  | dropLongestSuffix
  | dropPrefix
  | dropLongestPrefix
  | length
  | bad
  deriving DecidableEq, Repr

inductive Access where
  | read
  | write
  | overwrite
  | append
  | readWrite
  deriving DecidableEq, Repr

mutual

inductive Part : Type where
  | plain (c : Char)
  /-- A character whose meaning was taken away. -/
  | quoted (c : Char)
  /-- Here a quotation begins or ends. -/
  | mark
  /-- A parameter; with a colon an empty value counts as none. -/
  | parameter (name : String) (operator : Operator) (colon : Bool) (word : List Part)
  | command (body : Option Tree)
  | arithmetic (word : List Part)

inductive Redirection : Type where
  | file (descriptor : Nat) (access : Access) (name : List Part)
  /-- Without a target the descriptor is closed. -/
  | duplicate (descriptor : Nat) (target : Option Nat)
  | duplicateNamed (descriptor : Nat) (target : List Part)
  | document (descriptor : Nat) (expands : Bool) (text : List Part)

inductive Tree : Type where
  | command (line : Nat) (assignments words : List (List Part)) (redirections : List Redirection)
  | pipeline (background : Bool) (stages : List Tree)
  | redirected (line : Nat) (body : Tree) (redirections : List Redirection)
  | subshell (line : Nat) (body : Tree) (redirections : List Redirection)
  | background (body : Tree) (redirections : List Redirection)
  | negation (body : Tree)
  | both (first second : Tree)
  | either (first second : Tree)
  | sequence (first second : Tree)
  | conditional (test yes : Tree) (no : Option Tree)
  | loop (whileFails : Bool) (test body : Tree)
  | each (line : Nat) (name : String) (words : List (List Part)) (body : Tree)
  | choice (line : Nat) (word : List Part) (cases : List (List (List Part) × Option Tree))
  | definition (line : Nat) (name : String) (body : Tree)

end

abbrev Word := List Part

namespace Word

/-- The text of a word in which nothing is quoted or expanded. -/
def plain? : Word → Option (List Char)
  | [] => some []
  | .plain c :: rest => (plain? rest).map (c :: ·)
  | _ => none

end Word

/-! ## Characters -/

def isDigit (c : Char) : Bool := '0' ≤ c && c ≤ '9'

def isNameStart (c : Char) : Bool := ('a' ≤ c && c ≤ 'z') || ('A' ≤ c && c ≤ 'Z') || c = '_'

def isNamePart (c : Char) : Bool := isNameStart c || isDigit c

def isName (cs : List Char) : Bool :=
  match cs with
  | [] => false
  | c :: rest => isNameStart c && rest.all isNamePart

/-- The characters that are parameters by themselves, digits among them. -/
def isSpecialParameter (c : Char) : Bool :=
  isDigit c || ['!', '#', '$', '-', '*', '?', '@'].contains c

/-- Built-in commands that a function cannot hide. -/
def specialNames : List String := [".", ":", "break", "continue", "eval", "exec", "exit",
  "export", "local", "readonly", "return", "set", "shift", "times", "trap", "unset"]

/-- Whether a word gives a value to a variable. -/
def Word.isAssignment (w : Word) : Bool :=
  let name := w.takeWhile fun
    | .plain c => isNamePart c
    | _ => false
  match name, w.drop name.length with
  | .plain c :: _, .plain '=' :: _ => isNameStart c
  | _, _ => false

end BuildAtlas.Posix.Shell
