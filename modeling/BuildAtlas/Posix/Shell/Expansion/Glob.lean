import BuildAtlas.Posix.Shell.Act
import BuildAtlas.Posix.Shell.Expansion.Field

/-! # Patterns of paths

A field with a pattern is replaced by the paths that match it, if there are any. Patterns match
one name of a path at a time, and names that begin with a dot only by a dot.
-/
namespace BuildAtlas.Posix.Shell.Glob

open Act

/-- Whether a bracket is closed. -/
def closes : List Char → Bool
  | [] => false
  | '\\' :: _ :: rest => rest.head? = some ']' || closes rest
  | _ :: rest => rest.head? = some ']' || closes rest

/-- Whether a name is a pattern. -/
def isPattern : List Char → Bool
  | [] => false
  | '*' :: _ | '?' :: _ => true
  | '[' :: '!' :: rest => closes rest || isPattern ('!' :: rest)
  | '[' :: rest => closes rest || isPattern rest
  | '\\' :: _ :: rest => isPattern rest
  | _ :: rest => isPattern rest

def unescape : List Char → List Char
  | '\\' :: c :: rest => c :: unescape rest
  | c :: rest => c :: unescape rest
  | [] => []

/-- The names of a path, each as a pattern; `rev` is the name at hand, last character first. -/
def namesFrom (rev : List Char) : List Char → List (List Char)
  | [] => [rev.reverse]
  | '/' :: rest => rev.reverse :: namesFrom [] rest
  | '\\' :: '/' :: rest => rev.reverse :: namesFrom [] rest
  | '\\' :: c :: rest => namesFrom (c :: '\\' :: rev) rest
  | c :: rest => namesFrom (c :: rev) rest

def literal (names : List (List Char)) : String :=
  "/".intercalate (names.map fun n => String.ofList (unescape n))

/-- Whether a pattern asks for names with a dot at their beginning. -/
def wantsDot : List Char → Bool
  | '\\' :: '.' :: _ | '.' :: _ => true
  | _ => false

def matching (pattern : List Char) (names : List String) : List String :=
  names.filter fun n =>
    (wantsDot pattern || n.toList.head? != some '.') && Pattern.accepts pattern n.toList

/-- The paths that begin with a text and go on with names that match. -/
def pathsFrom : Nat → String → List (List Char) → Act (List String)
  | 0, _, _ => pure []
  | steps + 1, before, names => do
    let plain := names.takeWhile (!isPattern ·)
    match names.drop plain.length with
    | [] =>
      if before = "" then return []
      else
        let path := before ++ literal names
        match ← call (.status path false) with
        | .ok _ => return [path]
        | .error _ => return []
    | pattern :: rest =>
      let before := before ++ String.join (plain.map fun n => String.ofList (unescape n) ++ "/")
      match ← call (.names (if before = "" then "." else before)) with
      | .error _ => return []
      | .ok found =>
        let found := (matching pattern ([".", ".."] ++ found)).map (before ++ ·)
        if rest.isEmpty then return found
        else
          let paths ← found.mapM fun path => pathsFrom steps (path ++ "/") rest
          return paths.flatten

def isPatternPiece (p : Piece) : Bool :=
  match p.char? with
  | some c => c = '*' || c = '?' || c = '['
  | none => false

/-- The words that a field becomes. -/
def expandField (ps : List Piece) : Act (List String) := do
  if ps.any isPatternPiece then
    let names := namesFrom [] (Piece.pattern ps)
    let paths ← pathsFrom (names.length + 1) "" names
    if paths.isEmpty then return [Piece.text ps]
    else return paths.mergeSort fun a b => a ≤ b
  else return [Piece.text ps]

def expandFields (fields : List (List Piece)) : Act (List String) := do
  if (← gets (·.options.noglob)) then return fields.map Piece.text
  else if fields.any (·.any isPatternPiece) then
    return (← fields.mapM expandField).flatten
  else return fields.map Piece.text

end BuildAtlas.Posix.Shell.Glob
