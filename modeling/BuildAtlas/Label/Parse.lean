import BuildAtlas.Fault
import BuildAtlas.Label.Basic

/-! # Reading labels

One pass from left to right: an optional workspace after an at sign, then a package after two
slashes or a name after a colon. Whatever starts in none of these ways is a file path.
-/
namespace BuildAtlas.Label

/-- A workspace name ends before the first colon or the first two slashes. -/
def spanWorkspace : List Char → List Char × List Char
  | [] => ([], [])
  | ':' :: cs => ([], ':' :: cs)
  | '/' :: '/' :: cs => ([], '/' :: '/' :: cs)
  | c :: cs => (c :: (spanWorkspace cs).1, (spanWorkspace cs).2)

def segments (cs : List Char) : List String := (cs.splitOn '/').map String.ofList

/-- The segments of a package, none of them empty; the empty text is the root. -/
def readPackage (cs : List Char) : Except LabelDefect PackagePath :=
  if cs = [] then .ok []
  else if (cs.splitOn '/').any List.isEmpty then .error .emptyPackageSegment
  else .ok (segments cs)

/-- A name may reach into directories, but has no empty segment and no colon. -/
def readName (cs : List Char) : Except LabelDefect String :=
  if ':' ∈ cs then .error .secondNameSeparator
  else if cs ≠ [] ∧ (cs.splitOn '/').any List.isEmpty then .error .emptyNameSegment
  else .ok (String.ofList cs)

/-- What follows two slashes: a package, or a package, a colon and a name. -/
def readAbsolute (workspace : String) (cs : List Char) : Except LabelDefect Label :=
  match Text.cutAt ':' cs with
  | some (_, []) => .error .emptyName
  | some (package, name) => do
    let package ← readPackage package
    let name ← readName name
    return .absolute workspace package name
  | none => do
    let package ← readPackage cs
    return .absolute workspace package ""

/-- What follows a colon. Without a workspace in front the package at hand is meant. -/
def readColon (workspace : String) (cs : List Char) : Except LabelDefect Label :=
  if cs = [] then .error .emptyName
  else do
    let name ← readName cs
    return if workspace = "" then .here name else .absolute workspace [] name

def readChars : List Char → Except LabelDefect Label
  | [] => .error .empty
  | '@' :: cs =>
    let workspace := String.ofList (spanWorkspace cs).1
    if '/' ∈ (spanWorkspace cs).1 then .error .separatorInWorkspace
    else
      match (spanWorkspace cs).2 with
      | [] => if workspace = "" then .error .emptyWorkspace else .ok (.absolute workspace [] "")
      | '/' :: '/' :: rest => readAbsolute workspace rest
      | ':' :: rest => readColon workspace rest
      | rest => .ok (.file (segments rest))
  | '/' :: '/' :: cs => readAbsolute "" cs
  | ':' :: cs => readColon "" cs
  | cs => .ok (.file (segments cs))

def parse (text : String) : Except Fault Label :=
  (readChars text.toList).mapError (.labelSyntax text)

end BuildAtlas.Label
