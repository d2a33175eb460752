import BuildAtlas.Posix.Shell.Builtin.Letters
import BuildAtlas.Posix.Shell.Builtin.Print
import BuildAtlas.Posix.Shell.Expansion.Word
import BuildAtlas.Posix.Shell.Variables

/-! # Built-in commands for variables, options and arguments -/
namespace BuildAtlas.Posix.Shell.Builtin

open Act

/-! ## Variables -/

/-- The name and the value in an argument such as `name=value`. -/
def splitValue (s : String) : String × Option String :=
  let name := s.toList.takeWhile (· != '=')
  match s.toList.drop name.length with
  | _ :: value => (String.ofList name, some (String.ofList value))
  | [] => (s, none)

/-- A variable as a command that sets it. -/
def describeVariable (before : String) (name : String) (v : Variable) : String :=
  before ++ name ++ (v.value.map fun value => "=" ++ Print.quote value).getD "" ++ "\n"

def printVariables (before : String) (test : Variable → Bool) : Act Unit := do
  let chosen := (State.byName (← state).vars).filter fun entry => test entry.2
  print (String.join (chosen.map fun (name, v) => describeVariable before name v))

/-- The names among the arguments, none if the variables are to be listed. -/
def markedNames (args : List String) : Act (List String) := do
  match args.head?.map String.toList with
  | some ('-' :: 'p' :: _) => return []
  | some ('-' :: _ :: _) => return (← options [] (args.take 1)).2 ++ args.drop 1
  | _ => return args

/-- Mark variables, and give them values on the way. -/
def mark (before : String) (test : Variable → Bool) (set : Variable → Variable)
    (marks : State.Marks) (args : List String) : Act Nat := do
  let names ← markedNames args
  if names.isEmpty then printVariables before test
  else
    names.forM fun s => do
      let (name, value) := splitValue s
      match value, (← state).find? s with
      | none, some v => modify fun st => st.setVariable s (set v)
      | _, _ => change fun st => st.setNamed name value marks
  return 0

def export_ (args : List String) : Act Nat :=
  mark "export " (·.exported) (fun v => { v with exported := true }) { exported := true } args

def readonly (args : List String) : Act Nat :=
  mark "readonly " (·.readOnly) (fun v => { v with readOnly := true }) { readOnly := true } args

def local_ (args : List String) : Act Nat := do
  if (← gets (·.hidden.isEmpty)) then fail "not in a function"
  else
    args.forM fun s => do
      if s = "-" then modify fun st => st.hide (.options st.options)
      else
        let (name, value) := splitValue s
        change fun st => st.makeLocal name value {}
    return 0

def unset (args : List String) : Act Nat := do
  let (given, names) ← options (plainLetters "vf") args
  let functions := (given.getLast?.map (·.1)) = some 'f'
  names.forM fun name =>
    if functions then
      modify fun st => { st with functions := st.functions.filter (·.1 != name) }
    else change fun st => st.setNamed name none {}
  return 0

/-! ## Options -/

/-- The options of a shell by letter and name, with the way to see and to change them. -/
def switches : List (Option Char × String × (Options → Bool) × (Bool → Options → Options)) := [
  (some 'e', "errexit", (·.errexit), fun b o => { o with errexit := b }),
  (some 'f', "noglob", (·.noglob), fun b o => { o with noglob := b }),
  (some 'I', "ignoreeof", (·.ignoreeof), fun b o => { o with ignoreeof := b }),
  (some 'i', "interactive", (·.interactive), fun b o => { o with interactive := b }),
  (some 'm', "monitor", (·.monitor), fun b o => { o with monitor := b }),
  (some 'n', "noexec", (·.noexec), fun b o => { o with noexec := b }),
  (some 's', "stdin", (·.stdin), fun b o => { o with stdin := b }),
  (some 'x', "xtrace", (·.xtrace), fun b o => { o with xtrace := b }),
  (some 'v', "verbose", (·.verbose), fun b o => { o with verbose := b }),
  (some 'V', "vi", (·.vi), fun b o =>
    { o with
      vi := b
      emacs := o.emacs && !b }),
  (some 'E', "emacs", (·.emacs), fun b o =>
    { o with
      emacs := b
      vi := o.vi && !b }),
  (some 'C', "noclobber", (·.noclobber), fun b o => { o with noclobber := b }),
  (some 'a', "allexport", (·.allexport), fun b o => { o with allexport := b }),
  (some 'b', "notify", (·.notify), fun b o => { o with notify := b }),
  (some 'u', "nounset", (·.nounset), fun b o => { o with nounset := b }),
  (some 'p', "privileged", (·.privileged), fun b o => { o with privileged := b }),
  (none, "nolog", (·.nolog), fun b o => { o with nolog := b }),
  (none, "debug", (·.debug), fun b o => { o with debug := b })]

/-- Switch an option by its letter. -/
def switchLetter (on : Bool) (c : Char) (o : Options) : Except String Options :=
  match switches.find? (·.1 = some c) with
  | some (_, _, _, set) => .ok (set on o)
  | none => .error ("Illegal option -" ++ String.ofList [c])

/-- Switch an option by its name. -/
def switchName (on : Bool) (name : String) (o : Options) : Except String Options :=
  match switches.find? (·.2.1 = name) with
  | some (_, _, see, set) =>
    if name = "vi" || name = "emacs" then
      .ok (if name = "vi" then { o with vi := on } else { o with emacs := on })
    else .ok (if see o = on then o else set on o)
  | none => .error ("Illegal option -o " ++ name)

/-- All options as a list to read or as commands that restore them. -/
def describeSwitches (asList : Bool) (o : Options) : String :=
  if asList then
    "Current option settings\n" ++ String.join (switches.map fun (_, name, see, _) =>
      name ++ String.ofList (List.replicate (16 - name.length) ' ')
        ++ (if see o then "on\n" else "off\n"))
  else
    String.join (switches.map fun (_, name, see, _) =>
      "set " ++ (if see o then "-o " else "+o ") ++ name ++ "\n")

/-- Tell the user that jobs cannot be controlled without a terminal. -/
def settleOptions : Act Unit := do
  let st ← state
  if st.options.monitor && !st.isFork then
    warn "can't access tty; job control turned off"
    modify fun st => { st with options := { st.options with monitor := false } }

/-- Switch options by the letters of a word; those left want a name each. -/
def switchLetters (on : Bool) (args : List String) : List Char → Act (List String)
  | [] => pure args
  | c :: cs => do
    if c = 'o' then
      match args with
      | [] =>
        print (describeSwitches on (← state).options)
        switchLetters on [] cs
      | name :: rest =>
        change fun st => do return { st with options := ← switchName on name st.options }
        switchLetters on rest cs
    else
      change fun st => do return { st with options := ← switchLetter on c st.options }
      switchLetters on args cs

def setArguments (args : List String) : Act Unit :=
  modify fun st => { st with
    arguments := args
    place := {} }

/-- Go through the arguments of `set`; what is left are new arguments of the shell. -/
def setFrom : Nat → List String → Act Unit
  | 0, _ => pure ()
  | steps + 1, args => do
    match args with
    | [] => return ()
    | s :: rest =>
      match s.toList with
      | ['-'] =>
        modify fun st => { st with
          options := { st.options with
            xtrace := false
            verbose := false } }
        if !rest.isEmpty then setArguments rest
      | ['-', '-'] => setArguments rest
      | '-' :: cs => switchLetters true rest cs >>= setFrom steps
      | '+' :: cs => switchLetters false rest cs >>= setFrom steps
      | _ => setArguments args

def set (args : List String) : Act Nat := do
  if args.isEmpty then printVariables "" (·.value.isSome)
  else
    setFrom (args.length + 1) args
    settleOptions
  return 0

/-! ## Arguments -/

def shift (args : List String) : Act Nat := do
  let n ← match args with
    | [] => pure 1
    | s :: _ => count s
  let arguments := (← state).arguments
  if n > arguments.length then fail "can't shift that many"
  else
    setArguments (arguments.drop n)
    return 0

/-- Where `getopts` goes on: the rest of the word at hand, if any is left. -/
def restOfWord (place : OptionPlace) (args : List String) : List Char :=
  match place.letter with
  | none => []
  | some n =>
    if place.word ≤ 1 then []
    else (((args[place.word - 2]?).getD "").toList).drop n

inductive OptionKind where
  | unknown
  | plain
  | takes
  deriving DecidableEq, Repr

/-- What a list of letters says of one of them. -/
def optionKind (c : Char) : List Char → OptionKind
  | [] => .unknown
  | d :: rest =>
    if d = c then if rest.head? = some ':' then .takes else .plain
    else
      match rest with
      | ':' :: rest => optionKind c rest
      | rest => optionKind c rest

/-- What one step of `getopts` finds. -/
structure OptionStep where
  letter : Char
  /-- The argument of the option; none takes the variable away, if it is touched at all. -/
  argument : Option (Option String)
  warning : Option String := none
  done : Bool := false
  place : OptionPlace

def nextOption (letters : List Char) (place : OptionPlace) (args : List String) : OptionStep :=
  let rest := restOfWord place args
  let (word, cs) : Nat × List Char :=
    if rest.isEmpty then
      match ((args[place.word - 1]?).map String.toList) with
      | some ('-' :: c :: cs) => (place.word + 1, c :: cs)
      | _ => (place.word, [])
    else (place.word, rest)
  let length := ((args[word - 2]?).getD "").length
  match cs with
  | [] => ⟨'?', none, none, true, { word }⟩
  | c :: cs =>
    if rest.isEmpty && c = '-' && cs.isEmpty then ⟨'?', none, none, true, { word }⟩
    else
      let silent := letters.head? = some ':'
      let here : OptionPlace := { word, letter := some (length - cs.length) }
      let about := String.ofList [c]
      match optionKind c letters with
      | .unknown =>
        if silent then ⟨'?', some (some about), none, false, here⟩
        else ⟨'?', some none, some ("Illegal option -" ++ about), false, here⟩
      | .plain => ⟨c, some (some ""), none, false, here⟩
      | .takes =>
        match cs, args[word - 1]? with
        | [], none =>
          if silent then ⟨':', some (some about), none, false, { word }⟩
          else ⟨'?', some none, some ("No arg for -" ++ about ++ " option"), false, { word }⟩
        | [], some s => ⟨c, some (some s), none, false, { word := word + 1 }⟩
        | cs, _ => ⟨c, some (some (String.ofList cs)), none, false, { word }⟩

def getopts (args : List String) : Act Nat := do
  match ← operands args with
  | letters :: name :: own =>
    let st ← state
    let words := if own.isEmpty then st.arguments else own
    let place := if st.place.word > words.length + 1 then {} else st.place
    let step := nextOption letters.toList place words
    match step.argument with
    | none => pure ()
    | some (some s) => change fun st => st.set "OPTARG" s
    | some none => do
      match step.warning with
      | some message =>
        let _ ← write 2 (message ++ "\n")
      | none => pure ()
      change fun st => st.setNamed "OPTARG" none {}
    change fun st => st.set "OPTIND" (toString step.place.word)
    change fun st => st.setNamed name (some (String.ofList [step.letter])) {}
    modify fun st => { st with place := step.place }
    return if step.done then 1 else 0
  | _ => fail "Usage: getopts optstring var [arg]"

/-! ## Reading -/

/-- A line as it is read: its characters, and where the stretches to be split begin. -/
structure Line where
  text : Expanded := {}
  start : Nat := 0
  /-- Whether a backslash has just been read. -/
  escaped : Bool := false

namespace Line

def push (l : Line) (c : Char) : Line := { l with text := l.text.push (.plain c) }

/-- A stretch ends here. -/
def endStretch (l : Line) (stop : Nat) : Line :=
  { l with text := { l.text with regions := l.text.regions.push ⟨l.start, stop, false⟩ } }

end Line

/-- Read up to the end of a line; the status tells whether it was there. -/
def readLineFrom (raw : Bool) : Nat → Line → Act (Nat × Line)
  | 0, l => pure (1, l)
  | steps + 1, l => do
    match ← call (.read 0 1) with
    | .error .interrupted => return (1, l)
    | .error _ => return (1, l)
    | .ok bytes =>
      match (Text.ofBytes bytes).toList with
      | [] => return (1, l)
      | c :: _ =>
        if c = '\x00' then readLineFrom raw steps l
        else if l.escaped then
          let stop := l.text.size
          let l := l.endStretch stop
          let l := if c = '\n' then l else l.push c
          readLineFrom raw steps { l with
            start := l.text.size
            escaped := false }
        else if !raw && c = '\\' then readLineFrom raw steps { l with escaped := true }
        else if c = '\n' then return (0, l)
        else readLineFrom raw steps (l.push c)

/-- Give the fields of a line to variables; those that are left over get nothing. -/
def assignFields : List String → List (List Piece) → Act Unit
  | [], _ => pure ()
  | name :: names, fields => do
    change fun st => st.setNamed name (some ((fields.head?.map Piece.text).getD "")) {}
    assignFields names (fields.drop 1)

def read (args : List String) : Act Nat := do
  let (given, names) ← options [{ letter := 'p', takes := true }, { letter := 'r' }] args
  if names.isEmpty then fail "arg count"
  else
    let (status, l) ← readLineFrom (given.has 'r') 1000000000 {}
    let l := l.endStretch l.text.size
    let separators := (← state).separators
    assignFields names (Field.split l.text separators.toList (some names.length))
    return status

end BuildAtlas.Posix.Shell.Builtin
