import BuildAtlas.Posix.Programs.Basic

/-! # Printing files one after the other -/
namespace BuildAtlas.Posix.Programs.Cat

open Routine

structure Options where
  numbers : Bool := false
  numbersFilled : Bool := false
  squeezes : Bool := false
  ends : Bool := false
  tabs : Bool := false
  visible : Bool := false
  deriving DecidableEq, Repr

namespace Options

def set (o : Options) (c : Char) : Option Options :=
  match c with
  | 'A' => some { o with ends := true, tabs := true, visible := true }
  | 'b' => some { o with numbersFilled := true }
  | 'e' => some { o with ends := true, visible := true }
  | 'E' => some { o with ends := true }
  | 'n' => some { o with numbers := true }
  | 's' => some { o with squeezes := true }
  | 't' => some { o with tabs := true, visible := true }
  | 'T' => some { o with tabs := true }
  | 'u' => some o
  | 'v' => some { o with visible := true }
  | _ => none

def setNamed (o : Options) (name : String) : Option Options :=
  match name with
  | "--show-all" => o.set 'A'
  | "--number-nonblank" => o.set 'b'
  | "--show-ends" => o.set 'E'
  | "--number" => o.set 'n'
  | "--squeeze-blank" => o.set 's'
  | "--show-tabs" => o.set 'T'
  | "--show-nonprinting" => o.set 'v'
  | _ => none

def setLetters (o : Options) : List Char → Except String Options
  | [] => .ok o
  | c :: cs =>
    match o.set c with
    | some o => o.setLetters cs
    | none => .error (invalidOption c)

/-- Read the options, wherever they stand, and the names of the files. -/
def read (o : Options) : List String → Except String (Options × List String)
  | [] => .ok (o, [])
  | "--" :: rest => .ok (o, rest)
  | s :: rest =>
    match s.toList with
    | '-' :: '-' :: _ =>
      match o.setNamed s with
      | some o => o.read rest
      | none => .error (unknownOption s)
    | '-' :: c :: cs => do (← o.setLetters (c :: cs)).read rest
    | _ => do
      let (o, names) ← o.read rest
      return (o, s :: names)

def isPlain (o : Options) : Bool := o = {}

end Options

/-! ## Marking -/

/-- Where the text of all files together has come to. -/
structure Place where
  lines : Nat := 0
  atStart : Bool := true
  /-- Empty lines just before, as far as that matters. -/
  blanks : Nat := 0
  deriving DecidableEq, Repr

def showCharacter (o : Options) (c : Char) : List Char :=
  if c = '\t' then if o.tabs then ['^', 'I'] else [c]
  else if !o.visible then [c]
  else
    let n := c.toNat
    let meta_ := if n ≥ 128 then ['M', '-'] else []
    let m := n % 128
    if m < 32 then meta_ ++ ['^', Char.ofNat (m + 64)]
    else if m = 127 then meta_ ++ ['^', '?']
    else meta_ ++ [Char.ofNat m]

def lineNumber (n : Nat) : List Char :=
  let digits := Nat.toDigits 10 n
  List.replicate (6 - digits.length) ' ' ++ digits ++ ['\t']

/-- The number in front of a line, if it gets one. -/
def numberLine (o : Options) (p : Place) (isBlank : Bool) : List Char × Place :=
  if p.atStart && (if o.numbersFilled then !isBlank else o.numbers) then
    (lineNumber (p.lines + 1), { p with lines := p.lines + 1 })
  else ([], p)

def mark (o : Options) : Place → List Char → List Char → Place × List Char
  | p, rev, [] => (p, rev)
  | p, rev, c :: rest =>
    if c = '\n' then
      let isBlank := p.atStart
      if isBlank && o.squeezes && p.blanks ≥ 1 then mark o p rev rest
      else
        let (number, p) := numberLine o p isBlank
        let p := { p with atStart := true, blanks := if isBlank then p.blanks + 1 else 0 }
        let ended := if o.ends then ['\n', '$'] else ['\n']
        mark o p (ended ++ (number.reverse ++ rev)) rest
    else
      let (number, p) := numberLine o p false
      let p := { p with atStart := false, blanks := 0 }
      mark o p ((showCharacter o c).reverse ++ (number.reverse ++ rev)) rest

/-! ## Copying -/

def blockSize : Nat := 131072

/-- Copy from a descriptor to the standard output; the status, and where the text has come to. -/
def copyFrom (o : Options) (name : String) (descriptor : Nat) : Nat → Place → Routine (Nat × Place)
  | 0, p => pure (1, p)
  | steps + 1, p => do
    match ← call (.read descriptor blockSize) with
    | .error .interrupted => copyFrom o name descriptor steps p
    | .error failure =>
      complain "cat" (quoteName name ++ ": " ++ failure.message)
      return (1, p)
    | .ok bytes =>
      if bytes.isEmpty then return (0, p)
      else
        let (p, bytes) : Place × ByteArray :=
          if o.isPlain then (p, bytes)
          else
            let (p, rev) := mark o p [] (Text.ofBytes bytes).toList
            (p, Text.toBytes (String.ofList rev.reverse))
        match ← writeBytes 1 bytes with
        | none => copyFrom o name descriptor steps p
        | some failure =>
          complain "cat" ("write error: " ++ failure.message)
          exit 1

def copyAll (o : Options) : Nat → Place → List String → Routine Nat
  | status, _, [] => pure status
  | status, p, name :: rest => do
    let (n, p) ←
      if name = "-" then copyFrom o name 0 1000000000 p
      else
        match ← call (.open name .read) with
        | .error failure =>
          complain "cat" (quoteName name ++ ": " ++ failure.message)
          pure (1, p)
        | .ok descriptor =>
          let r ← copyFrom o name descriptor 1000000000 p
          let _ ← call (.close descriptor)
          pure r
    copyAll o (max status n) p rest

/-- Whether a descriptor is in use. -/
def isOpen (descriptor : Nat) : Routine Bool := do
  match ← call (.duplicate descriptor 10 true) with
  | .ok copy =>
    let _ ← call (.close copy)
    return true
  | .error _ => return false

def main (args : List String) : Routine Nat := do
  match Options.read {} args with
  | .error message => misuse "cat" message 1
  | .ok (o, names) =>
    if !(← isOpen 1) then
      complain "cat" ("standard output: " ++ Errno.badDescriptor.message)
      return 1
    else
      let names := if names.isEmpty then ["-"] else names
      let status ← copyAll o 0 {} names
      if names.contains "-" && !(← isOpen 0) then
        complain "cat" ("closing standard input: " ++ Errno.badDescriptor.message)
        return 1
      else return status

end BuildAtlas.Posix.Programs.Cat
