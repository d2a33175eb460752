import BuildAtlas.Text.Lines
import BuildAtlas.Text.Units
import BuildAtlas.Workspace.Lookup

/-! # Completing labels

Inside a string literal a slash completes the packages below the path typed so far, and a
colon the targets of the package. Candidates replace everything from the opening quote to the
cursor.
-/
namespace BuildAtlas

/-- Zero-based line and column, the column in UTF-16 units. -/
structure Cursor where
  line : Nat
  character : Nat
  deriving DecidableEq, Repr

inductive CandidateKind where
  | package
  | target (kind : String)
  deriving DecidableEq, Repr

structure Candidate where
  label : String
  insertText : String
  kind : CandidateKind
  deriving DecidableEq, Repr

structure Completion where
  typed : String
  line : Nat
  start : Nat
  stop : Nat
  candidates : List Candidate
  deriving DecidableEq, Repr

namespace Completion

def isQuote (c : Char) : Bool := c = '"' || c = '\''

/-- What follows the last quote that no backslash escapes. A quote is escaped by an odd run of
backslashes before it; `odd` tells whether such a run has just been passed. -/
def afterLastQuote (odd : Bool) : List Char → Option (List Char)
  | [] => none
  | c :: cs =>
    match afterLastQuote (c == '\\' && !odd) cs with
    | some typed => some typed
    | none => if isQuote c && !odd then some cs else none

/-- The text typed since the opening quote, and the byte at which it starts. -/
def labelPrefix (before : List Char) : Option (Nat × List Char) :=
  (afterLastQuote false before).map fun typed =>
    (Text.byteLength before - Text.byteLength typed, typed)

def isQuoteByte (b : UInt8) : Bool := b == 0x22 || b == 0x27

/-- An odd run of backslashes in front of a byte escapes it. -/
def escapedAt (bytes : List UInt8) (i : Nat) : Bool :=
  ((bytes.take i).reverse.takeWhile (· == 0x5c)).length % 2 == 1

/-- The place behind the last quote among the first bytes that is not escaped, looked for from
the last of these bytes on back. The bytes before the cursor lead to the start of the prefix. -/
def scanBack (bytes : List UInt8) : Nat → Option Nat
  | 0 => none
  | i + 1 =>
    if bytes[i]?.any isQuoteByte && !escapedAt bytes i then some (i + 1) else scanBack bytes i

def ofPackage (path : String) : Candidate := { label := path, insertText := path, kind := .package }

def ofTarget (package : String) (t : Target) : Candidate :=
  { label := t.name, insertText := package ++ ":" ++ t.name, kind := .target t.kind }

/-- The typed text without one colon at its end. -/
def typedPackage (typed : List Char) : List Char :=
  if typed.getLast? = some ':' then typed.dropLast else typed

def packageCandidates (w : Workspace) (typed : List Char) : List Candidate :=
  match w.subpackagesAt (String.ofList typed) with
  | .ok paths => paths.map ofPackage
  | .error _ => []

/-- With nothing before the colon, the targets of the package at hand. -/
def targetCandidates (w : Workspace) (current : PackagePath) (typed : List Char) :
    List Candidate :=
  let package := String.ofList (typedPackage typed)
  match w.targetsAt (if package = "" then current.render else package) with
  | .ok targets => targets.map (ofTarget package)
  | .error _ => []

/-- The candidates for the text typed before the cursor. External labels have none. -/
def candidatesFor (w : Workspace) (current : PackagePath) (trigger : Char) (typed : List Char) :
    List Candidate :=
  if typed.head? = some '@' then []
  else if trigger = '/' then packageCandidates w typed
  else targetCandidates w current typed

/-- Complete the label whose beginning is the end of `before`, the line up to the cursor. -/
def ofLine (w : Workspace) (current : PackagePath) (trigger : Option Char) (line : Nat)
    (before : List Char) : Option Completion := do
  let typed ← afterLastQuote false before
  let trigger ← trigger.or typed.getLast?
  guard (trigger = '/' ∨ trigger = ':')
  let stop := Text.width before
  return {
    typed := String.ofList typed
    line
    start := stop - Text.width typed
    stop
    candidates := candidatesFor w current trigger typed
  }

end Completion

/-- Complete the label at the cursor. Without a trigger the last character typed counts. -/
def Workspace.complete (w : Workspace) (current : PackagePath) (text : String) (cursor : Cursor)
    (trigger : Option Char) : Option Completion := do
  let line ← (Text.lines text)[cursor.line]?
  Completion.ofLine w current trigger cursor.line (Text.takeUnits cursor.character line.toList)

end BuildAtlas
