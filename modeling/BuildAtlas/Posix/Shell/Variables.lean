import BuildAtlas.Posix.Shell.Number
import BuildAtlas.Posix.Shell.State

/-! # Variables

A change of some variables changes the shell: where commands are found, or which option comes
next.
-/
namespace BuildAtlas.Posix.Shell

namespace State

/-- Variables that are there even without a value. -/
def lasting : List String :=
  ["IFS", "MAIL", "MAILPATH", "OPTIND", "PATH", "PS1", "PS2", "PS4"]

/-- How a variable is marked when it gets a value. -/
structure Marks where
  exported : Bool := false
  readOnly : Bool := false
  /-- Whether it stays when its value goes. -/
  lasting : Bool := false

/-- What a variable's new value does to the shell. -/
def noteChange (st : State) (name value : String) : Except String State :=
  if name = "PATH" then .ok { st with hashed := [] }
  else if name = "OPTIND" then
    match Number.count? value with
    | some n => .ok { st with place := { word := max n 1 } }
    | none => .error (Number.illegal value)
  else .ok st

/-- Give a variable a value or take it away. -/
def assign (st : State) (name : String) (value : Option String) (marks : Marks) :
    Except String State :=
  let exported := marks.exported || (st.options.allexport && value.isSome)
  match st.find? name with
  | some v =>
    if v.readOnly then .error (name ++ ": is read only")
    else do
      let st ← st.noteChange name (value.getD "")
      if value.isNone && !exported && !marks.readOnly && !marks.lasting && !v.lasting then
        return st.dropVariable name
      else
        return st.setVariable name
          { value
            exported := exported || v.exported
            readOnly := marks.readOnly
            lasting := marks.lasting || v.lasting }
  | none =>
    if value.isNone && !exported && !marks.readOnly && !marks.lasting then .ok st
    else .ok (st.setVariable name
      { value, exported, readOnly := marks.readOnly, lasting := marks.lasting })

/-- The name at the beginning of a text and what follows it. -/
def splitName (cs : List Char) : List Char × List Char :=
  match cs with
  | c :: _ => if isNameStart c then (cs.takeWhile isNamePart, cs.dropWhile isNamePart) else ([], cs)
  | [] => ([], [])

/-- Give a variable a value, or take it away, by a name that may be none. -/
def setNamed (st : State) (text : String) (value : Option String) (marks : Marks) :
    Except String State :=
  let (name, rest) := splitName text.toList
  if name.isEmpty || (rest.head?.any (· != '=')) then
    .error (String.ofList (name ++ rest.takeWhile (· != '=')) ++ ": bad variable name")
  else st.assign (String.ofList name) value marks

def set (st : State) (name value : String) : Except String State :=
  st.assign name (some value) {}

/-- The characters that fields are split at. -/
def separators (st : State) : String := (st.value? "IFS").getD " \t\n"

/-! ## Local variables -/

def hide (st : State) (h : Hidden) : State :=
  match st.hidden with
  | [] => { st with hidden := [[h]] }
  | top :: rest => { st with hidden := (h :: top) :: rest }

/-- Make a variable local, with a value if one is given. -/
def makeLocal (st : State) (name : String) (value : Option String) (marks : Marks) :
    Except String State :=
  match st.find? name with
  | none => do
    let marks := { marks with lasting := true }
    let st ← if value.isSome then st.assign name value marks else st.setNamed name none marks
    return st.hide (.variable name none)
  | some v => do
    let kept := st.setVariable name { v with lasting := true }
    let st ← if value.isSome then kept.assign name value marks else pure kept
    return st.hide (.variable name (some v))

def unhide (st : State) : Hidden → State
  | .options old => { st with options := old }
  | .variable name none => st.dropVariable name
  | .variable name (some v) =>
    match st.noteChange name (v.value.getD "") with
    | .ok st => st.setVariable name v
    | .error _ => st.setVariable name v

/-- Leave a scope of local variables. -/
def leaveScope (st : State) : State :=
  match st.hidden with
  | [] => st
  | top :: rest => top.foldl unhide { st with hidden := rest }

def enterScope (st : State) : State := { st with hidden := [] :: st.hidden }

/-! ## Lists -/

def byName (vs : List (String × Variable)) : List (String × Variable) :=
  vs.mergeSort fun a b => a.1 ≤ b.1

/-- Where a name is kept in a table of so many rows. -/
def row (rows : Nat) (name : String) : Nat :=
  match name.toList with
  | [] => 0
  | c :: cs => ((c :: cs).foldl (fun sum c => sum + c.toNat) (c.toNat * 16)) % rows

/-- Put named things into the order of a table. -/
def byRow {α : Type} (rows : Nat) (entries : List (String × α)) : List (String × α) :=
  (List.range rows).flatMap fun i => entries.filter fun entry => row rows entry.1 = i

def variableRows : Nat := 39

/-- What other programs are told of the variables. -/
def environment (st : State) : List String :=
  (byRow variableRows st.vars).filterMap fun (name, v) =>
    if v.exported then v.value.map (name ++ "=" ++ ·) else none

end State

end BuildAtlas.Posix.Shell
