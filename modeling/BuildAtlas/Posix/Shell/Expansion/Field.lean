import BuildAtlas.Posix.Shell.Reader.Word
import BuildAtlas.Posix.Shell.Pattern

/-! # Fields

What words expand to is kept as pieces until it has been split into fields and its patterns have
been replaced. Only what came from expansions is split; the stretches it fills are recorded.
-/
namespace BuildAtlas.Posix.Shell

inductive Piece where
  | plain (c : Char)
  | quoted (c : Char)
  | mark
  deriving DecidableEq, Repr, Inhabited

/-- A stretch that is split: at the separators of the shell, or between arguments only. -/
structure Region where
  start : Nat
  stop : Nat
  betweenArguments : Bool
  deriving DecidableEq, Repr

/-- What has been expanded so far. -/
structure Expanded where
  pieces : Array Piece := #[]
  regions : Array Region := #[]

namespace Piece

def char? : Piece → Option Char
  | plain c | quoted c => some c
  | mark => none

/-- The character that stands between arguments. -/
def gap : Char := '\x00'

/-- The text of pieces without quotes. -/
def text (ps : List Piece) : String := String.ofList (ps.filterMap char?)

/-- The pieces of a text that an expansion yields. -/
def ofChar (keepsQuotes inQuotes : Bool) (c : Char) : Piece :=
  if !keepsQuotes then .plain c
  else if inQuotes then if Reader.isDelicate c || c = '\\' then .quoted c else .plain c
  else if Reader.isReserved c then .quoted c
  else .plain c

/-- The pattern that pieces spell; `free` tells that no bare backslash comes before. -/
def patternFrom (free : Bool) : List Piece → List Char
  | [] => []
  | .mark :: rest => patternFrom true rest
  | .plain c :: rest => c :: patternFrom (c != '\\') rest
  | .quoted c :: rest => if free then '\\' :: c :: patternFrom true rest else c :: patternFrom true rest

/-- The pattern that pieces spell, quoted characters standing for themselves. -/
def pattern (ps : List Piece) : List Char :=
  let bare := ps.takeWhile fun
    | .plain _ => true
    | _ => false
  bare.filterMap char? ++ patternFrom true (ps.drop bare.length)

end Piece

namespace Expanded

def size (x : Expanded) : Nat := x.pieces.size

def push (x : Expanded) (p : Piece) : Expanded := { x with pieces := x.pieces.push p }

def append (x : Expanded) (ps : List Piece) : Expanded :=
  { x with pieces := ps.foldl Array.push x.pieces }

/-- Record that everything from a place on is split. -/
def record (x : Expanded) (start : Nat) (betweenArguments : Bool) : Expanded :=
  { x with regions := x.regions.push ⟨start, x.size, betweenArguments⟩ }

def text (x : Expanded) : String := Piece.text x.pieces.toList

end Expanded

/-! ## Splitting -/

namespace Field

/-- Separators that count once however many of them there are. -/
def isSpace (c : Char) : Bool := c = ' ' || c = '\t' || c = '\n' || c = Piece.gap

/-- Fields under way, those that are complete last first. -/
structure Split where
  fields : List (List Piece) := []
  /-- Where the field at hand begins. -/
  start : Nat := 0
  /-- Whether a field has just ended at a space. -/
  afterSpace : Bool := false
  /-- How many fields may follow, if that is limited. -/
  left : Option Nat
  /-- Where the last field ends, as far as is known. -/
  cut : Option Nat := none

def slice (ps : Array Piece) (start stop : Nat) : List Piece := (ps.extract start stop).toList

/-- Look at the character at a place, in a region with some separators. -/
def look (ps : Array Piece) (separators : List Char) (keepsEmpty : Bool) (s : Split) (i : Nat) :
    Split :=
  match (ps[i]?).bind Piece.char? with
  | none => if s.left = some 0 then { s with cut := none, afterSpace := false }
    else if s.afterSpace then { s with start := i, afterSpace := false }
    else s
  | some c =>
    let separates := c = Piece.gap || separators.contains c
    let isSpace := separates && Field.isSpace c
    if s.left = some 0 then
      if isSpace then { s with cut := s.cut.or (some i) }
      else
        { s with cut := if separates && s.afterSpace then s.cut else none, afterSpace := false }
    else
      let absorbed := s.afterSpace && separates
      let s := if s.afterSpace then { s with start := if absorbed then i + 1 else i } else s
      if absorbed then
        if isSpace then s else { s with afterSpace := false }
      else if separates then
        let space := isSpace && !keepsEmpty
        if i = s.start && space then { s with start := i + 1, afterSpace := false }
        else if s.left = some 1 then { s with left := some 0, cut := some i, afterSpace := space }
        else
          { s with
            fields := slice ps s.start i :: s.fields
            start := i + 1
            afterSpace := space
            left := s.left.map (· - 1) }
      else { s with afterSpace := false }

/-- Look at a region; whether the one before ended between arguments matters as well. -/
def lookThrough (ps : Array Piece) (separators : List Char) (after : Bool) (s : Split)
    (r : Region) : Split :=
  let keepsEmpty := after || r.betweenArguments
  let separators := if r.betweenArguments then [] else separators
  (List.range (r.stop - r.start)).foldl
    (fun s i => look ps separators keepsEmpty s (r.start + i)) { s with afterSpace := false }

def lookThroughAll (ps : Array Piece) (separators : List Char) (after : Bool) (s : Split) :
    List Region → Bool × Split
  | [] => (after, s)
  | r :: rs => lookThroughAll ps separators r.betweenArguments
      (lookThrough ps separators after s r) rs

/-- Split pieces into fields, into no more than so many if a limit is given. -/
def split (x : Expanded) (separators : List Char) (limit : Option Nat) : List (List Piece) :=
  let (between, s) :=
    lookThroughAll x.pieces separators false { left := limit } x.regions.toList
  let last := slice x.pieces s.start (s.cut.getD x.size)
  if between || !last.isEmpty then (last :: s.fields).reverse else s.fields.reverse

end Field

end BuildAtlas.Posix.Shell
